/-
The footprint of a pattern: how much memory it takes to search for it.

A search runs an automaton over the bytes of the text, forward from where a match may
begin and backward from where it may end.  Every state of an automaton takes the same
room, and some take more for the ways that lead on from them.  A pattern whose automaton
is too large in either direction is refused.
-/
import Conform.Pattern.Basic
import Conform.Text.Encoding
import Std.Data.HashSet

namespace Conform.Pattern

open Text (CharSet ByteTree)

/-- The bytes of memory of the automata that search forward and backward. -/
structure Footprint where
  forward : Nat
  backward : Nat

namespace Footprint

/-- The same in both directions. -/
def both (n : Nat) : Footprint := ⟨n, n⟩

instance : Add Footprint := ⟨fun a b => ⟨a.forward + b.forward, a.backward + b.backward⟩⟩

/-- The footprint of so many copies. -/
def copies (n : Nat) (a : Footprint) : Footprint :=
  ⟨n * a.forward, n * a.backward⟩

/-- The room of a state. -/
def state : Nat := 32

/-- The room of a way on under a range of bytes. -/
def way : Nat := 8

/-- The room of a way on under no condition. -/
def jump : Nat := 4

/-- A state with so many ways on under no condition. -/
def fork (n : Nat) : Footprint :=
  both (state + jump * n)

/-- The footprint of one character of a set.  A single character takes a state for each of
its bytes, and a set in ASCII one for all.  Forward, states share what follows them, and
backward what came before them. -/
def ofSet (s : CharSet) : Footprint :=
  match s.only? with
  | some n => both (state * CharSet.encodedLength n)
  | none =>
    if s.isAscii then both (2 * state + way * s.ranges.length)
    else
      let sequences := s.byteSequences
      let nodes := ByteTree.nodes 4 sequences
      let ways (nodes : List ByteTree) : Nat :=
        nodes.foldl (fun count node => count + node.branches.length) 0
      let distinct := (Std.HashSet.ofList nodes).toList
      { forward := state + state * distinct.length + way * ways distinct
        backward := 2 * state + jump * sequences.length + state * ways nodes }

end Footprint

/-! ### Choices -/

/-- What the alternatives of a choice add up to. -/
structure Alternatives where
  count : Nat
  /-- The footprints of all, added up. -/
  total : Footprint
  /-- The characters of all, if each is a single character or each a set of several, and
  which of the two. -/
  chars : Option (CharSet × Bool) := none

namespace Alternatives

/-- One alternative. -/
def one (total : Footprint) : Alternatives :=
  { count := 1, total }

/-- The alternatives of two choices. -/
def or (a b : Alternatives) : Alternatives where
  count := a.count + b.count
  total := a.total + b.total
  chars :=
    match a.chars, b.chars with
    | some (s, single), some (t, single') =>
      if single = single' then some (s ∪ t, single) else none
    | _, _ => none

/-- The footprint of the choice.  A choice between characters is one set of characters. -/
def footprint (a : Alternatives) : Footprint :=
  if a.count = 1 then a.total
  else
    match a.chars with
    | some (s, _) => .ofSet s
    | none => a.total + .fork a.count + .both Footprint.state

end Alternatives

/-! ### Patterns -/

/-- The footprint of a repetition, told that of the pattern: copies for as often as it
has to match, and then a fork before each copy that it may match, or one fork that leads
back. -/
def repetitionFootprint (a : Footprint) (mayTakeNothing : Bool) (least : Nat) :
    Option Nat → Footprint
  | none =>
    if least = 0 ∧ mayTakeNothing then a + .fork 2 + .fork 2 + .both Footprint.state
    else .copies (max least 1) a + .fork 2
  | some most =>
    let required : Footprint := if least = 0 then .both Footprint.state else .copies least a
    if most = least then required
    else if most = 1 then a + .fork 2 + .both Footprint.state
    else required + .copies (most - least) (a + .fork 2) + .both Footprint.state

/-- What a pattern adds up to as alternatives of a choice. -/
def alternatives : Pattern → Alternatives
  | nothing => .one (.both Footprint.state)
  | one set => { Alternatives.one (.ofSet set) with chars := some (set, set.only?.isSome) }
  | anchor _ => .one (.both Footprint.state)
  | seq a b => .one (a.alternatives.footprint + b.alternatives.footprint)
  | either a b => a.alternatives.or b.alternatives
  | times p least most =>
    .one (repetitionFootprint p.alternatives.footprint p.mayTakeNothing least most)
  | group p => .one (p.alternatives.footprint + ⟨2 * Footprint.state, 0⟩)

/-- The footprint of a pattern, with what it takes to begin anywhere and to note the
match. -/
def footprint (p : Pattern) : Footprint :=
  p.alternatives.footprint + .fork 2 + .both (3 * Footprint.state + Footprint.way) +
    ⟨2 * Footprint.state, 0⟩

/-- The largest footprint that is allowed: ten mebibytes. -/
def footprintLimit : Nat := 10 * 1024 * 1024

/-- The pattern is not too large in either direction. -/
def isAffordable (p : Pattern) : Bool :=
  p.footprint.forward ≤ footprintLimit && p.footprint.backward ≤ footprintLimit

end Conform.Pattern
