/-
Input types: the sets of values a schema may take in.

A set of inputs is a list of types, each a kind or one literal value, and holds what any
of them holds.  `unite` brings such a list to its least form, and `distribute` gives the
types of the values that lie in every one of several sets.
-/
import Conform.Value.Equality
import Conform.Value.Kind
import Conform.Value.Text

namespace Conform

/-- A kind of values, or a single value. -/
inductive InputType where
  | kind (k : Kind)
  | literal (v : Value)

namespace InputType

instance : Inhabited InputType := ⟨kind .unknown⟩

/-- The type of every value. -/
def unknown : InputType := kind .unknown

/-- The type of no value. -/
def never : InputType := kind .never

/-- The type of one value.  Undefined and null are alone in their kinds. -/
def ofLiteral : Value → InputType
  | .undefined => kind .undefined
  | .null => kind .null
  | v => literal v

/-- The types are the same kind, or equal literals. -/
def same : InputType → InputType → Bool
  | kind a, kind b => a == b
  | literal a, literal b => a == b
  | _, _ => false

instance : BEq InputType := ⟨same⟩

/-- The kind the type is part of. -/
def kindOf : InputType → Kind
  | kind k => k
  | literal v => v.kind

/-- Every value of the type is one of `other`. -/
def isWithin (type other : InputType) : Bool :=
  match type, other with
  | _, kind .unknown => true
  | literal v, kind k => v.kind == k
  | a, b => a == b

/-- A value of the kind `k` may be of the type. -/
def admits (type : InputType) (k : Kind) : Bool :=
  match type with
  | kind .unknown => true
  | kind .never => false
  | type => type.kindOf == k

/-- The value is of the type. -/
def contains (type : InputType) (v : Value) : Bool :=
  match type with
  | kind .unknown => true
  | kind k => v.kind == k
  | literal w => v == w

/-- The text of a type: the name of the kind, or the text of the value. -/
def text : InputType → String
  | kind k => k.name
  | literal v => v.text

/-! ### Sets of inputs -/

/-- The list without what equals something earlier in it. -/
def withoutRepeats : List InputType → List InputType
  | [] => []
  | type :: rest => type :: (withoutRepeats rest).filter fun other => !(type == other)

/-- The same set of inputs by as few types as possible, in the order given: no repeats,
no `never`, nothing that lies within another type, and `unknown` only alone. -/
def unite (types : List InputType) : List InputType :=
  if types.any (· == unknown) then [unknown]
  else
    let distinct := withoutRepeats (types.filter fun type => !(type == never))
    distinct.filter fun type =>
      !distinct.any fun other => !(other == type) && type.isWithin other

/-- What two sets have in common: of each comparable pair, the narrower type. -/
def intersect (left right : List InputType) : List InputType :=
  unite <| left.flatMap fun a => right.filterMap fun b =>
    if a.isWithin b then some a else if b.isWithin a then some b else none

/-- What all the sets have in common.  Where there is no set, that is every value. -/
def distribute : (groups : List (List InputType)) → List InputType
  | [] => [unknown]
  | first :: rest => rest.foldl (fun common group => intersect common (unite group)) (unite first)

end InputType

end Conform
