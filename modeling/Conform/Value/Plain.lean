/-
Plain data, and the values it becomes.

Plain data is what interchange formats carry.  Its objects are lists of pairs that may
repeat a name; as a value, an object has its fields in the order of their names, and of
a repeated name the last value.
-/
import Conform.Value.Basic

namespace Conform

/-- Data as an interchange format carries it. -/
inductive Plain where
  | null
  | bool (b : Bool)
  | number (n : Number)
  | string (s : String)
  | array (items : List Plain)
  | object (entries : List (String × Plain))

/-- The fields in the order of their names, by code points. -/
def Fields.sorted {α : Type _} (f : Fields α) : Fields α :=
  ofEntries (f.entries.mergeSort fun a b => decide (a.1 ≤ b.1)) <|
    (((List.mergeSort_perm _ _).map Prod.fst).nodup_iff).2 f.nodup_entries

namespace Value

mutual

/-- The value of plain data. -/
def ofPlain : Plain → Value
  | .null => null
  | .bool b => bool b
  | .number n => number n
  | .string s => string s
  | .array items => array (ofPlainList items)
  | .object entries => object (Fields.ofList (ofPlainEntries entries)).sorted

/-- The values of the items. -/
def ofPlainList : List Plain → List Value
  | [] => []
  | item :: rest => ofPlain item :: ofPlainList rest

/-- The entries with their values. -/
def ofPlainEntries : List (String × Plain) → List (String × Value)
  | [] => []
  | (name, data) :: rest => (name, ofPlain data) :: ofPlainEntries rest

end

end Value

end Conform
