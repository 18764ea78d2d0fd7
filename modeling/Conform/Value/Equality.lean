/-
Equality of values.

It is the equality by which literals match, repeated elements are found and outputs are
merged: NaN equals itself, zero has no sign, and objects are equal whatever the order
of their fields.  Maps, sets and arrays are compared element by element in order.
-/
import Conform.Value.Basic

namespace Conform.Value

mutual

/-- The values are equal. -/
def same : Value → Value → Bool
  | undefined, undefined => true
  | null, null => true
  | bool a, bool b => a == b
  | number a, number b => a.same b
  | bigint a, bigint b => a == b
  | string a, string b => a == b
  | symbol a, symbol b => a.identity == b.identity
  | date a, date b => a == b
  | array as, array bs => sameList as bs
  | set as, set bs => sameList as bs
  | map as, map bs => sameEntries as bs
  | object ⟨names, _, row⟩, object g => names.length == g.size && sameRow row g.get?
  | boxed a, boxed b => same a b
  | _, _ => false
  termination_by structural a => a

/-- The lists are equal element by element. -/
def sameList : List Value → List Value → Bool
  | [], [] => true
  | a :: as, b :: bs => same a b && sameList as bs
  | _, _ => false
  termination_by structural as => as

/-- The lists are equal pair by pair. -/
def sameEntries : List (Value × Value) → List (Value × Value) → Bool
  | [], [] => true
  | a :: as, b :: bs => samePair a b && sameEntries as bs
  | _, _ => false
  termination_by structural as => as

/-- The pairs are equal in both parts. -/
def samePair : Value × Value → Value × Value → Bool
  | (a, b), (c, d) => same a c && same b d
  termination_by structural a => a

/-- Every value of the row equals the one that `other` has under its name. -/
def sameRow {names : List String} (row : Row Value names) (other : String → Option Value) :
    Bool :=
  match row with
  | .nil => true
  | .cons name a rest =>
    (match other name with
      | some b => same a b
      | none => false) && sameRow rest other
  termination_by structural row

end

instance : BEq Value := ⟨same⟩

/-- A row equals a lookup that finds an equal value under each of its names. -/
theorem sameRow_eq {names : List String} (row : Row Value names)
    (other : String → Option Value) :
    sameRow row other = row.toList.all fun e => (other e.1).any (same e.2) := by
  induction row with
  | nil => rfl
  | cons name a rest ih =>
    simp only [sameRow, Row.toList, List.all_cons, ih]
    cases other name <;> rfl

/-- Objects are equal if they have equally many fields and every field of the one has its
equal in the other. -/
theorem same_object (f g : Fields Value) :
    same (object f) (object g) =
      (f.size == g.size && f.entries.all fun e => (g.get? e.1).any (same e.2)) := by
  simp only [same, sameRow_eq]
  rfl

end Conform.Value
