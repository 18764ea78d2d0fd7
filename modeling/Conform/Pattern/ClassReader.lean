/-
Reading character classes in brackets.

A class is read with a stack of the classes it is nested in.  Within one class, items
next to each other unite, and the operators `&&`, `--` and `~~` take all that stands
before them as their left side.
-/
import Conform.Pattern.Escape

namespace Conform.Pattern

open Text (CharSet)

/-- An operator between two sets of characters. -/
inductive SetOperator where
  | intersection | difference | symmetricDifference

/-- The set of the characters that the operator leaves of two. -/
def SetOperator.apply : SetOperator → CharSet → CharSet → CharSet
  | intersection => (· ∩ ·)
  | difference => (· \ ·)
  | symmetricDifference => .symmetricDifference

/-- A set of characters as it stands in a pattern, with how deeply it is nested. -/
structure NestedSet where
  set : CharSet
  depth : Nat

/-- A class in brackets, as far as it is read. -/
structure OpenClass where
  negated : Bool
  /-- The left side of the last operator, if there was one. -/
  left : Option (NestedSet × SetOperator) := none
  /-- The items since the opening bracket or the last operator, united. -/
  items : CharSet := .empty
  /-- How many items these are. -/
  count : Nat := 0
  /-- How deeply the deepest of them is nested. -/
  depth : Nat := 0

namespace OpenClass

/-- The class with an item more. -/
def add (c : OpenClass) (item : NestedSet) : OpenClass :=
  { c with
    items := c.items ∪ item.set, count := c.count + 1, depth := max c.depth item.depth }

/-- The items since the last operator.  Two and more of them are a level of nesting. -/
def union (c : OpenClass) : NestedSet :=
  ⟨c.items, if 2 ≤ c.count then c.depth + 1 else c.depth⟩

/-- The characters so far, before any negation.  An operator is a level of nesting. -/
def soFar (c : OpenClass) : NestedSet :=
  match c.left with
  | none => c.union
  | some (left, op) => ⟨op.apply left.set c.items, max left.depth c.union.depth + 1⟩

/-- The class with an operator after what is read of it. -/
def operate (c : OpenClass) (op : SetOperator) : OpenClass :=
  { negated := c.negated, left := some (c.soFar, op) }

/-- The set of a class at its closing bracket.  Brackets are a level of nesting. -/
def close? (c : OpenClass) (mode : Mode) : Option NestedSet := do
  let set ← if c.negated then mode.negated? c.soFar.set else some c.soFar.set
  some ⟨set, c.soFar.depth + 1⟩

end OpenClass

/-! ### Items -/

/-- The ASCII classes that have a name. -/
def namedClass? (name : String) : Option CharSet :=
  let ranges (r : List (Char × Char)) : Option CharSet :=
    some (.ofRanges (r.map fun (a, b) => (a.toNat, b.toNat)))
  match name with
  | "alnum" => ranges [('0', '9'), ('A', 'Z'), ('a', 'z')]
  | "alpha" => ranges [('A', 'Z'), ('a', 'z')]
  | "ascii" => ranges [('\x00', '\x7f')]
  | "blank" => ranges [('\t', '\t'), (' ', ' ')]
  | "cntrl" => ranges [('\x00', '\x1f'), ('\x7f', '\x7f')]
  | "digit" => ranges [('0', '9')]
  | "graph" => ranges [('!', '~')]
  | "lower" => ranges [('a', 'z')]
  | "print" => ranges [(' ', '~')]
  | "punct" => ranges [('!', '/'), (':', '@'), ('[', '\x60'), ('\x7b', '~')]
  | "space" => ranges [('\t', '\r'), (' ', ' ')]
  | "upper" => ranges [('A', 'Z')]
  | "word" => ranges [('0', '9'), ('A', 'Z'), ('_', '_'), ('a', 'z')]
  | "xdigit" => ranges [('0', '9'), ('A', 'F'), ('a', 'f')]
  | _ => none

/-- Reads a named class, from after its opening bracket: `:`, perhaps `^`, the name, and
`:]`.  The result tells whether it is negated. -/
def readNamedClass? : List Char → Option (CharSet × Bool × List Char)
  | ':' :: rest => do
    let (negated, rest) := match rest with
      | '^' :: rest => (true, rest)
      | rest => (false, rest)
    let name := rest.takeWhile (· != ':')
    let set ← namedClass? (String.ofList name)
    match rest.drop name.length with
    | ':' :: ']' :: rest => some (set, negated, rest)
    | _ => none
  | _ => none

/-- Reads one side of a range, or an item that is none: a character or an escape. -/
def readClassItem? (mode : Mode) : List Char → Option (Escape × List Char)
  | [] => none
  | '\\' :: rest => readEscape? mode rest
  | c :: rest => some (.char c, rest)

/-- The characters from one to another.  Outside Unicode they have to be in ASCII. -/
def rangeSet? (mode : Mode) (a b : Char) : Option CharSet :=
  if b < a ∨ !mode.unicode ∧ 0x80 ≤ b.toNat then none
  else some (mode.inCase (.ofRange a.toNat b.toNat))

/-- An item of a class by itself.  No place is an item. -/
def itemSet? (mode : Mode) : Escape → Option CharSet
  | .char c => rangeSet? mode c c
  | .set s => some s
  | .anchor _ => none

/-- The character at an end of a range. -/
def rangeEnd? : Escape → Option Char
  | .char c => some c
  | _ => none

/-- The character that decides what a hyphen means, from after the hyphen: the next one
that is no blank, or where a comment begins the first in it that is no blank. -/
def afterHyphen? (mode : Mode) (cs : List Char) : Option Char :=
  if !mode.extended then cs.head?
  else
    match Text.dropBlanks cs with
    | '#' :: rest => (Text.dropBlanks rest).head?
    | cs => cs.head?

/-- Reads an item or a range of a class.  A hyphen makes a range unless a closing bracket
or another hyphen follows it. -/
def readRange? (mode : Mode) (cs : List Char) : Option (CharSet × List Char) := do
  let (first, rest) ← readClassItem? mode cs
  let alone := (itemSet? mode first).map fun set => (set, rest)
  match mode.skipSpace rest with
  | '-' :: more =>
    if afterHyphen? mode more = some ']' ∨ afterHyphen? mode more = some '-' then alone
    else do
      let (last, rest) ← readClassItem? mode (mode.skipSpace more)
      let set ← rangeSet? mode (← rangeEnd? first) (← rangeEnd? last)
      some (set, rest)
  | _ => alone

/-! ### Classes -/

/-- Reads what opens a class, from after its bracket: perhaps `^`, and then hyphens or a
closing bracket that stand for themselves. -/
def openClass (mode : Mode) (cs : List Char) : OpenClass × List Char :=
  let (negated, cs) := match mode.skipSpace cs with
    | '^' :: rest => (true, mode.skipSpace rest)
    | cs => (false, cs)
  match hyphens cs.length cs with
  | (0, ']' :: rest) => (.add { negated } ⟨.single ']', 0⟩, rest)
  | (0, cs) => ({ negated }, cs)
  | (count, cs) => ({ negated, items := .single '-', count }, cs)
where
  /-- How many hyphens there are, and what follows them. -/
  hyphens : Nat → List Char → Nat × List Char
    | fuel + 1, '-' :: rest =>
      let (count, rest) := hyphens fuel (mode.skipSpace rest)
      (count + 1, rest)
    | _, cs => (0, cs)

/-- Reads a class up to the bracket that closes it, inside the classes `outer`. -/
def readClassFrom? (mode : Mode) :
    Nat → OpenClass → (outer : List OpenClass) → List Char → Option (NestedSet × List Char)
  | 0, _, _, _ => none
  | fuel + 1, current, outer, cs =>
    match mode.skipSpace cs with
    | [] => none
    | '[' :: rest =>
      match readNamedClass? rest with
      | some (set, negated, rest) => do
        let set := mode.inCase set
        let set ← if negated then mode.negated? set else some set
        readClassFrom? mode fuel (current.add ⟨set, 0⟩) outer rest
      | none =>
        let (inner, rest) := openClass mode rest
        readClassFrom? mode fuel inner (current :: outer) rest
    | ']' :: rest => do
      let set ← current.close? mode
      match outer with
      | [] => some (set, rest)
      | parent :: outer => readClassFrom? mode fuel (parent.add set) outer rest
    | '&' :: '&' :: rest =>
      readClassFrom? mode fuel (current.operate .intersection) outer rest
    | '-' :: '-' :: rest =>
      readClassFrom? mode fuel (current.operate .difference) outer rest
    | '~' :: '~' :: rest =>
      readClassFrom? mode fuel (current.operate .symmetricDifference) outer rest
    | cs => do
      let (set, rest) ← readRange? mode cs
      readClassFrom? mode fuel (current.add ⟨set, 0⟩) outer rest

/-- Reads a class, from after its opening bracket. -/
def readClass? (mode : Mode) (cs : List Char) : Option (NestedSet × List Char) :=
  let (current, rest) := openClass mode cs
  readClassFrom? mode (cs.length + 1) current [] rest

end Conform.Pattern
