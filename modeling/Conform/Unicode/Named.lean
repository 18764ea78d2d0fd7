/-
Sets of characters that have names.

Names are compared loosely: case, spaces, underscores and hyphens do not count, and
neither does a leading `is`.
-/
import Conform.Text.CharSet

namespace Conform.Unicode

open Text

/-- A set of characters with its names. -/
structure NamedSet where
  names : List String
  chars : CharSet

/-- What is compared of a name.  Only what is in ASCII counts.  A lone `c` after `is` is
kept apart from `c` alone, which names another set. -/
def looseName (name : String) : String :=
  let (stripped, rest) := match name.toList with
    | i :: s :: rest => if i.toLower = 'i' ∧ s.toLower = 's' then (true, rest) else (false, i :: s :: rest)
    | cs => (false, cs)
  let kept := (rest.filter fun c => c.toNat < 0x80 && c != ' ' && c != '_' && c != '-').map
    Char.toLower
  if stripped ∧ kept = ['c'] then "isc" else String.ofList kept

/-- The set of a name, the name compared loosely. -/
def find? (sets : List NamedSet) (name : String) : Option CharSet :=
  let loose := looseName name
  (sets.find? fun set => set.names.any fun other => looseName other == loose).map (·.chars)

end Conform.Unicode
