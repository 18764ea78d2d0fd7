/-
The encoding of characters in bytes, one to four for each.

A set of characters is encoded as sequences of ranges of bytes: a character is in the set
if its bytes lie, one by one, in the ranges of one of the sequences.
-/
import Conform.Text.CharSet

namespace Conform.Text

/-- A sequence of ranges of bytes. -/
abbrev ByteSequence := List (Nat × Nat)

namespace CharSet

/-- The bytes of the numbers from `lo` to `hi`, written with a leading byte, to which
`marker` is added, and as many more as told, of six bits each. -/
def split : (more : Nat) → (marker lo hi : Nat) → List ByteSequence
  | 0, marker, lo, hi => [[(marker + lo, marker + hi)]]
  | more + 1, marker, lo, hi =>
    let block := Nat.pow 64 (more + 1)
    let within (lead lo hi : Nat) : List ByteSequence :=
      (split more 0x80 lo hi).map ((marker + lead, marker + lead) :: ·)
    let first := lo / block
    let last := hi / block
    if first = last then within first (lo % block) (hi % block)
    else
      let startsWhole := lo % block = 0
      let endsWhole := hi % block = block - 1
      let next := if startsWhole then first else first + 1
      let stop := if endsWhole then last + 1 else last
      (if startsWhole then [] else within first (lo % block) (block - 1)) ++
        (if next < stop then
          [(marker + next, marker + stop - 1) :: List.replicate (more + 1) (0x80, 0xbf)]
        else []) ++
        (if endsWhole then [] else within last 0 (hi % block))

/-- The lengths of encodings: the first and the last code point, how many bytes follow the
leading one, and the marker of that. -/
def lengths : List (Nat × Nat × Nat × Nat) :=
  [(0, 0x7f, 0, 0), (0x80, 0x7ff, 1, 0xc0), (0x800, 0xffff, 2, 0xe0),
    (0x10000, 0x10ffff, 3, 0xf0)]

/-- The sequences of bytes that encode the set, in increasing order. -/
def byteSequences (s : CharSet) : List ByteSequence :=
  (s ∩ all).ranges.flatMap fun (lo, hi) =>
    lengths.flatMap fun (first, last, more, marker) =>
      if max lo first ≤ min hi last then split more marker (max lo first) (min hi last) else []

/-- The number of bytes that encode a code point. -/
def encodedLength (n : Nat) : Nat :=
  if n ≤ 0x7f then 1 else if n ≤ 0x7ff then 2 else if n ≤ 0xffff then 3 else 4

end CharSet

/-! ### Trees of sequences -/

/-- The sequences that go on from a node of the tree of all sequences. -/
abbrev ByteTree := List ByteSequence

namespace ByteTree

/-- The ranges that lead on from a node, each with the node it leads to. -/
def branches : ByteTree → List ((Nat × Nat) × ByteTree)
  | [] => []
  | [] :: rest => branches rest
  | (range :: tail) :: rest =>
    match branches rest with
    | (next, tails) :: others =>
      if range = next then (range, tail :: tails) :: others
      else (range, [tail]) :: (next, tails) :: others
    | [] => [(range, [tail])]

/-- The nodes from one on that something leads on from, at most so many levels down. -/
def nodes : (levels : Nat) → ByteTree → List ByteTree
  | 0, _ => []
  | levels + 1, tree =>
    let next := tree.branches
    if next.isEmpty then [] else tree :: next.flatMap fun branch => nodes levels branch.2

end ByteTree

end Conform.Text
