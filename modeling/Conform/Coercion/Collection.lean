/-
Coercing to collections.

Any value becomes an array or a set, at worst of one element.  Only what holds pairs
becomes a map.
-/
import Conform.Value.Basic

namespace Conform.Coercion

/-- The elements of a value as an array: those of a set, the pairs of a map, or the value
alone. -/
def toItems : Value → List Value
  | .array items => items
  | .set items => items
  | .map entries => entries.map fun e => .array [e.1, e.2]
  | v => [v]

/-- The elements of a value as a set: those of an array, or the value alone. -/
def toElements : Value → List Value
  | .set items => items
  | .array items => items
  | v => [v]

/-- An array of a key and a value as a pair. -/
def pairOf? : Value → Option (Value × Value)
  | .array [key, value] => some (key, value)
  | _ => none

/-- The entries of a value as a map: the fields of a plain object, or the pairs of an
array of nothing but pairs. -/
def toEntries? : Value → Option (List (Value × Value))
  | .map entries => some entries
  | .object fields => some (fields.entries.map fun e => (.string e.1, e.2))
  | .array items => items.mapM pairOf?
  | _ => none

end Conform.Coercion
