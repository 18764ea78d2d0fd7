/-
Merging two values into one that holds both.

Equal values merge to the first.  Objects merge field by field, with the fields of
either one kept, and arrays of one length element by element.  Nothing else merges.
-/
import Conform.Value.Equality

namespace Conform

/-- The fields, and after them those of `g` whose names are new. -/
def Fields.extend {α : Type _} (f g : Fields α) : Fields α :=
  (g.entries.filter fun e => !f.contains e.1).foldl (fun f e => f.insert e.1 e.2) f

namespace Value

mutual

/-- The least value that holds what both values hold, if there is one. -/
def merge? (a b : Value) : Option Value :=
  if a.same b then some a
  else
    match a, b with
    | array as, array bs => (mergeList? as bs).map array
    | object ⟨names, distinct, row⟩, object g =>
      (mergeRow? row g.get?).map fun merged => object (Fields.extend ⟨names, distinct, merged⟩ g)
    | _, _ => none
  termination_by structural a

/-- The lists merged element by element, if they are equally long. -/
def mergeList? : List Value → List Value → Option (List Value)
  | [], [] => some []
  | a :: as, b :: bs => do
    let merged ← merge? a b
    let rest ← mergeList? as bs
    pure (merged :: rest)
  | _, _ => none
  termination_by structural as => as

/-- The row with every value merged with the one that `other` has under its name. -/
def mergeRow? {names : List String} (row : Row Value names) (other : String → Option Value) :
    Option (Row Value names) :=
  match row with
  | .nil => some .nil
  | .cons name a rest => do
    let merged ← match other name with
      | some b => merge? a b
      | none => some a
    let rest ← mergeRow? rest other
    pure (.cons name merged rest)
  termination_by structural row

end

end Value

end Conform
