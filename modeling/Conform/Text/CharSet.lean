/-
Sets of characters.

A set is kept as the list, in increasing order, of the code points where membership
changes: the first of each range of members and the first after it.  Membership is then
the parity of the changes up to a code point, and any two sets combine in one pass.
-/
namespace Conform.Text

/-- A set of characters, as the code points where membership changes, in increasing
order. -/
structure CharSet where
  changes : List Nat
  deriving DecidableEq

namespace CharSet

/-- An odd number of the changes are at the code point or before it. -/
def oddUpTo (n : Nat) : List Nat → Bool
  | [] => false
  | change :: rest => change ≤ n && !oddUpTo n rest

/-- The code point is in the set. -/
def containsPoint (s : CharSet) (n : Nat) : Bool :=
  oddUpTo n s.changes

/-- The character is in the set. -/
def contains (s : CharSet) (c : Char) : Bool :=
  s.containsPoint c.toNat

/-! ### Building sets -/

/-- No character. -/
def empty : CharSet := ⟨[]⟩

/-- Every character.  The surrogates are no characters. -/
def all : CharSet := ⟨[0, 0xd800, 0xe000, 0x110000]⟩

/-- The characters from the first to the last. -/
def ofRange (first last : Nat) : CharSet := ⟨[first, last + 1]⟩

/-- One character. -/
def single (c : Char) : CharSet := ofRange c.toNat c.toNat

/-- The changes without those that undo each other. -/
def cancel : List Nat → List Nat
  | a :: b :: rest => if a = b then cancel rest else a :: cancel (b :: rest)
  | changes => changes

/-- The code points of the ranges, which are in increasing order and do not overlap. -/
def ofRanges (ranges : List (Nat × Nat)) : CharSet :=
  ⟨cancel (ranges.flatMap fun (first, last) => [first, last + 1])⟩

/-- Every second code point of the ranges, which are in increasing order and do not
overlap. -/
def everySecond (ranges : List (Nat × Nat)) : CharSet :=
  ofRanges <| ranges.flatMap fun (first, last) =>
    (List.range ((last - first) / 2 + 1)).map fun i => (first + 2 * i, first + 2 * i)

/-- The code points of a list, in any order. -/
def ofPoints (points : List Nat) : CharSet :=
  ofRanges <| ((points.mergeSort).eraseReps).map fun n => (n, n)

/-! ### Combining sets -/

/-- Puts a change before others unless membership stays the same there. -/
def changeAt (n : Nat) (before after : Bool) (rest : List Nat) : List Nat :=
  if before = after then rest else n :: rest

/-- The changes of a set whose members are told by `f` from the members of two sets.  `p`
and `q` say whether the two hold what lies just before their next changes. -/
def combineChanges (f : Bool → Bool → Bool) : (p q : Bool) → List Nat → List Nat → List Nat
  | p, _, [], b => if f p true = f p false then [] else b
  | _, q, a, [] => if f true q = f false q then [] else a
  | p, q, x :: a, y :: b =>
    if x < y then changeAt x (f p q) (f (!p) q) (combineChanges f (!p) q a (y :: b))
    else if y < x then changeAt y (f p q) (f p (!q)) (combineChanges f p (!q) (x :: a) b)
    else changeAt x (f p q) (f (!p) (!q)) (combineChanges f (!p) (!q) a b)
  termination_by _ _ a b => a.length + b.length

/-- The set whose members are told by `f` from the members of two sets. -/
def combine (f : Bool → Bool → Bool) (s t : CharSet) : CharSet :=
  ⟨combineChanges f false false s.changes t.changes⟩

instance : Union CharSet := ⟨combine or⟩

instance : Inter CharSet := ⟨combine and⟩

instance : SDiff CharSet := ⟨combine fun p q => p && !q⟩

/-- The characters of one set only. -/
def symmetricDifference (s t : CharSet) : CharSet :=
  combine xor s t

/-- The characters that are not in the set. -/
def complement (s : CharSet) : CharSet :=
  all \ s

/-- The characters of any of the sets. -/
def unions (sets : List CharSet) : CharSet :=
  sets.foldr (· ∪ ·) empty

/-! ### Looking into sets -/

/-- No character is in the set. -/
def isEmpty (s : CharSet) : Bool :=
  s.changes.isEmpty

/-- The ranges of a set, each with its first and last code point. -/
def ranges (s : CharSet) : List (Nat × Nat) :=
  pairs s.changes
where
  /-- Every two changes as a range. -/
  pairs : List Nat → List (Nat × Nat)
    | first :: next :: rest => (first, next - 1) :: pairs rest
    | _ => []

/-- The only character of a set that has no other. -/
def only? (s : CharSet) : Option Nat :=
  match s.ranges with
  | [(first, last)] => if first = last then some first else none
  | _ => none

/-- Every character of the set is in ASCII. -/
def isAscii (s : CharSet) : Bool :=
  s.changes.all (· ≤ 0x80)

end CharSet

end Conform.Text
