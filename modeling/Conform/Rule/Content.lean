/-
Rules on what strings and arrays hold.

The length of a string is its number of characters, and that of an array its number of
elements.  Rules on arrays are forced: they can be judged whether or not the elements
are in order.
-/
import Conform.Pattern.Matcher
import Conform.Rule.Constraint

namespace Conform.Rule

/-- A rule on a length, with the limit as its parameter. -/
def lengthLimit (key code message : String) (limit : Nat) (length? : Value → Option Nat)
    (passes : Nat → Bool) : Rule :=
  constraint (some key) code message (some (.number (Number.ofNat limit))) fun v =>
    (length? v).any fun length => !passes length

/-! ### Strings -/

/-- The length of a string. -/
def stringLength? : Value → Option Nat
  | .string s => some s.length
  | _ => none

/-- The string has the limit of characters or more. -/
def stringMinLength (limit : Nat) : Rule :=
  lengthLimit "min_len" Code.minLength ("must be at least " ++ limit.repr ++ " characters") limit
    stringLength? (limit ≤ ·)

/-- The string has the limit of characters or fewer. -/
def stringMaxLength (limit : Nat) : Rule :=
  lengthLimit "max_len" Code.maxLength ("must be at most " ++ limit.repr ++ " characters") limit
    stringLength? (· ≤ limit)

/-- The string has a match of the pattern in it, `source` being the text of the pattern.
Every pattern is checked, whatever the others found. -/
def pattern (source : String) (p : Pattern) : Rule :=
  { constraint (some ("pattern:" ++ source)) Code.pattern ("must match pattern " ++ source)
      (some (.string source)) fun
        | .string s => !p.isFoundIn s
        | _ => false with
    unguarded := true }

/-! ### Arrays -/

/-- The length of an array. -/
def arrayLength? : Value → Option Nat
  | .array items => some items.length
  | _ => none

/-- The array has the limit of elements or more. -/
def arrayMinLength (limit : Nat) : Rule :=
  { lengthLimit "min_len" Code.minLength ("must have at least " ++ limit.repr ++ " items") limit
      arrayLength? (limit ≤ ·) with
    forced := true }

/-- The array has the limit of elements or fewer. -/
def arrayMaxLength (limit : Nat) : Rule :=
  { lengthLimit "max_len" Code.maxLength ("must have at most " ++ limit.repr ++ " items") limit
      arrayLength? (· ≤ limit) with
    forced := true }

/-- The array has an element. -/
def arrayNonEmpty : Rule :=
  arrayMinLength 1

/-- The elements that equal an earlier one, with their positions.  `earlier` are those
before the first, which has the position `start`. -/
def repeatedItems (earlier : List Value) (start : Nat) : List Value → List (Value × Nat)
  | [] => []
  | item :: rest =>
    let more := repeatedItems (item :: earlier) (start + 1) rest
    if earlier.any (· == item) then (item, start) :: more else more

/-- No two elements are equal.  Each repeated element is an issue at its position. -/
def arrayUnique : Rule where
  action := .check fun v _ _ =>
    match v with
    | .array items =>
      .ok ((repeatedItems [] 0 items).map fun (item, i) =>
        (Issue.raise Code.unique item "must be unique").within (.index i))
    | _ => .ok []
  key := some "unique"
  forced := true

end Conform.Rule
