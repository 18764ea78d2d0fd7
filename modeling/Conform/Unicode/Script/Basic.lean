/-
Scripts: the characters that a writing system has of its own, and those it shares.
-/
import Conform.Unicode.Named

namespace Conform.Unicode

open Text

/-- The characters of a script.  A character of several scripts is of none of them, but
common to all or inherited from the character before it. -/
structure Script where
  names : List String
  /-- The characters of this script and no other. -/
  own : CharSet
  /-- The characters that this script shares with some others. -/
  shared : CharSet := .empty

namespace Script

/-- The characters that are of this script and no other. -/
def narrow (s : Script) : NamedSet := ⟨s.names, s.own⟩

/-- The characters that are used in the script. -/
def wide (s : Script) : NamedSet := ⟨s.names, s.own ∪ s.shared⟩

end Script

end Conform.Unicode
