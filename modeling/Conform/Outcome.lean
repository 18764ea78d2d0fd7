/-
What validating a value comes to.
-/
import Conform.Issue

namespace Conform

/-- The choices of one call, the same for every schema in it. -/
structure Options where
  /-- Report every problem, and not only the first of each branch. -/
  verbose : Bool := false
  /-- Coerce for every schema, and not only for those that ask for it. -/
  coerce : Bool := false
  deriving DecidableEq, Inhabited

/-- The value that comes out, relative to the one that went in. -/
inductive Output where
  /-- The value that went in, untouched. -/
  | kept
  /-- A value made on the way. -/
  | replaced (v : Value)

namespace Output

/-- The value that comes out where `input` went in. -/
def resolve (output : Output) (input : Value) : Value :=
  match output with
  | kept => input
  | replaced v => v

/-- The value comes out as it went in. -/
def isKept : Output → Bool
  | kept => true
  | replaced _ => false

/-- The value that was made, if one was. -/
def new? : Output → Option Value
  | kept => none
  | replaced v => some v

end Output

/-- The end of a validation. -/
inductive Outcome where
  | accepted (output : Output)
  | rejected (issues : Issues)

namespace Outcome

/-- The value was accepted. -/
def isAccepted : Outcome → Bool
  | accepted _ => true
  | rejected _ => false

end Outcome

end Conform
