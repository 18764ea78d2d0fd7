/-
Reading patterns.

A pattern is read from left to right with a stack of the groups that are open.  Where
anything is malformed, nested too deeply or too large there is no pattern at all.
References back to a group and looks around a place are not part of the language.
-/
import Conform.Pattern.ClassReader
import Conform.Pattern.Footprint
import Conform.Text.Digits

namespace Conform.Pattern

/-- A part of a sequence, with how deeply it is nested. -/
structure Part where
  pattern : Pattern
  depth : Nat := 0
  /-- A count may follow the part. -/
  countable : Bool := true

/-- A group as far as it is read, or the whole pattern. -/
structure OpenGroup where
  /-- The mode at this point. -/
  mode : Mode := {}
  /-- The group takes note of what it matches. -/
  noted : Bool := false
  /-- The alternatives before the current one, the last first. -/
  alternatives : List Part := []
  /-- The parts of the current alternative, the last first. -/
  parts : List Part := []

namespace OpenGroup

/-- The group with a part more. -/
def add (g : OpenGroup) (p : Part) : OpenGroup :=
  { g with parts := p :: g.parts }

/-- The depth of parts side by side.  Two and more of them are a level of nesting. -/
def depthOf (parts : List Part) : Nat :=
  let deepest := (parts.map (·.depth)).foldr max 0
  if 2 ≤ parts.length then deepest + 1 else deepest

/-- The current alternative as a part. -/
def current (g : OpenGroup) : Part :=
  let patterns := (g.parts.filter (·.countable)).map (·.pattern)
  { pattern := sequence patterns.reverse, depth := depthOf g.parts }

/-- The group in front of its next alternative. -/
def alternate (g : OpenGroup) : OpenGroup :=
  { g with alternatives := g.current :: g.alternatives, parts := [] }

/-- All that is read of the group as a part. -/
def whole (g : OpenGroup) : Part :=
  let all := g.current :: g.alternatives
  let pattern := match (all.map (·.pattern)).reverse with
    | [] => nothing
    | first :: rest => choice first rest
  { pattern, depth := depthOf all }

/-- The group as a part of the one around it.  A group is a level of nesting. -/
def close (g : OpenGroup) : Part :=
  let inner := g.whole
  { pattern := if g.noted then group inner.pattern else inner.pattern, depth := inner.depth + 1 }

/-- The group with its last part repeated, if there is one to repeat.  A repetition is a
level of nesting. -/
def repeatLast? (g : OpenGroup) (least : Nat) (most : Option Nat) : Option OpenGroup :=
  match g.parts with
  | p :: parts =>
    if p.countable then
      some { g with parts := { pattern := p.pattern.repeated least most, depth := p.depth + 1 } :: parts }
    else none
  | [] => none

end OpenGroup

/-! ### Counts -/

/-- What follows the mark of a count that prefers fewer, which makes no difference to
whether there is a match. -/
def skipLazy : List Char → List Char
  | '?' :: rest => rest
  | cs => cs

/-- The largest number a count may have is the last before this one. -/
def countLimit : Nat := 4294967296

/-- Takes the digits of a number, with no blanks or comments between them where these mean
nothing. -/
def takeDigits (mode : Mode) (cs : List Char) : List Char × List Char :=
  go cs.length cs
where
  /-- Takes no more digits than there is fuel. -/
  go : Nat → List Char → List Char × List Char
    | fuel + 1, c :: rest =>
      if c.isDigit then
        let (digits, rest) := go fuel (mode.skipSpace rest)
        (c :: digits, rest)
      else ([], c :: rest)
    | _, cs => ([], cs)

/-- Reads a number in a count, blanks around it allowed. -/
def readCountNumber? (mode : Mode) (cs : List Char) : Option (Nat × List Char) :=
  let (digits, rest) := takeDigits mode (Text.dropBlanks cs)
  let n := Text.digitsValue 0 digits
  if digits.isEmpty ∨ countLimit ≤ n then none
  else some (n, mode.skipSpace (Text.dropBlanks rest))

/-- Reads a count, from after its opening brace: exactly, at least, or between two
numbers. -/
def readCount? (mode : Mode) (cs : List Char) : Option (Nat × Option Nat × List Char) := do
  let (least, cs) ← readCountNumber? mode (mode.skipSpace cs)
  let (most, cs) ← match cs with
    | ',' :: rest =>
      match mode.skipSpace rest with
      | '\x7d' :: rest => some (none, '\x7d' :: rest)
      | rest => (readCountNumber? mode rest).map fun (most, rest) => (some most, rest)
    | cs => some (some least, cs)
  match cs with
  | '\x7d' :: rest =>
    if most.all (least ≤ ·) then some (least, most, skipLazy (mode.skipSpace rest)) else none
  | _ => none

/-! ### Groups -/

/-- The mode with one of its switches, told by its letter, turned on or off.  Preferring
fewer repetitions makes no difference here. -/
def Mode.set? (mode : Mode) (letter : Char) (on : Bool) : Option Mode :=
  match letter with
  | 'i' => some { mode with ignoreCase := on }
  | 'm' => some { mode with multiLine := on }
  | 's' => some { mode with dotAll := on }
  | 'R' => some { mode with carriageReturns := on }
  | 'u' => some { mode with unicode := on }
  | 'x' => some { mode with extended := on }
  | 'U' => some mode
  | _ => none

/-- The mode with the switches turned that the letters name: on, and off after a hyphen.
No switch may be named twice, and after the hyphen there has to be one. -/
def Mode.setAll? (mode : Mode) (letters : List Char) : Option Mode := do
  let on := letters.takeWhile (· != '-')
  let off := (letters.dropWhile (· != '-')).drop 1
  if on.length < letters.length ∧ off.isEmpty then none
  else if (on ++ off).eraseDups.length < (on ++ off).length then none
  else do
    let mode ← on.foldlM (fun mode c => mode.set? c true) mode
    off.foldlM (fun mode c => mode.set? c false) mode

/-- The text may name a group: letters, numbers and `_`, of which no number comes first,
and after the first character also points and brackets. -/
def isGroupName : List Char → Bool
  | [] => false
  | c :: rest =>
    (Text.isAlphabetic c || c == '_') &&
      rest.all fun c => Text.isAlphanumeric c || c == '_' || c == '.' || c == '[' || c == ']'

/-- What an opening parenthesis begins. -/
inductive Opening where
  /-- A group that takes note of what it matches, and its name if it has one. -/
  | noted (name : Option String)
  /-- A group with its own mode. -/
  | plain (mode : Mode)
  /-- A mode for the rest of the group around it. -/
  | switch (mode : Mode)

/-- Reads a name up to its closing angle bracket. -/
def readGroupName? (cs : List Char) : Option (Opening × List Char) :=
  let name := cs.takeWhile (· != '>')
  match cs.drop name.length with
  | _ :: rest => if isGroupName name then some (.noted (String.ofList name), rest) else none
  | [] => none

/-- Reads what an opening parenthesis begins, from after it. -/
def readOpening? (mode : Mode) (cs : List Char) : Option (Opening × List Char) :=
  match mode.skipSpace cs with
  | '?' :: 'P' :: '<' :: rest => readGroupName? rest
  | '?' :: '<' :: rest => readGroupName? rest
  | '?' :: rest => do
    let letters := rest.takeWhile fun c => c != ':' && c != ')'
    let inner ← mode.setAll? letters
    match rest.drop letters.length with
    | ':' :: rest => some (.plain inner, rest)
    | _ :: rest => if letters.isEmpty then none else some (.switch inner, rest)
    | [] => none
  | cs => some (.noted none, cs)

/-! ### The whole pattern -/

/-- The pattern of one character, in the case that the mode asks for.  Outside Unicode only
ASCII has case. -/
def character (mode : Mode) (c : Char) : Pattern :=
  one (mode.inCase (.single c))

/-- The pattern of an escape. -/
def escaped (mode : Mode) : Escape → Pattern
  | .char c => character mode c
  | .set s => one s
  | .anchor a => anchor a

/-- The pattern of a point: any character, or any but the end of a line.  Outside Unicode
it would match what is no whole character. -/
def anyCharacter? (mode : Mode) : Option Pattern :=
  let lineEnds : Text.CharSet :=
    if mode.dotAll then .empty
    else if mode.carriageReturns then .single '\n' ∪ .single '\r'
    else .single '\n'
  (mode.negated? lineEnds).map one

/-- The pattern of `^`: the start of the text, or of a line. -/
def startAnchor (mode : Mode) : Pattern :=
  anchor (if mode.multiLine then .lineStart mode.carriageReturns else .textStart)

/-- The pattern of `$`: the end of the text, or of a line. -/
def endAnchor (mode : Mode) : Pattern :=
  anchor (if mode.multiLine then .lineEnd mode.carriageReturns else .textEnd)

/-- Reads the rest of a pattern inside the groups `outer`.  `names` are the names of the
groups so far, which have to differ. -/
def readFrom? : Nat → OpenGroup → (outer : List OpenGroup) → (names : List String) →
    List Char → Option Part
  | 0, _, _, _, _ => none
  | fuel + 1, g, outer, names, cs =>
    let continue? (g : OpenGroup) (rest : List Char) := readFrom? fuel g outer names rest
    let part? (pattern : Pattern) (rest : List Char) := continue? (g.add { pattern }) rest
    match g.mode.skipSpace cs with
    | [] => if outer.isEmpty then some g.whole else none
    | c :: rest =>
      match c with
      | '(' => do
        let (opening, rest) ← readOpening? g.mode rest
        match opening with
        | .switch mode =>
          continue? { g with mode, parts := { pattern := nothing, countable := false } :: g.parts } rest
        | .plain mode => readFrom? fuel { mode } (g :: outer) names rest
        | .noted none => readFrom? fuel { mode := g.mode, noted := true } (g :: outer) names rest
        | .noted (some name) =>
          if names.contains name then none
          else readFrom? fuel { mode := g.mode, noted := true } (g :: outer) (name :: names) rest
      | ')' =>
        match outer with
        | [] => none
        | parent :: outer => readFrom? fuel (parent.add g.close) outer names rest
      | '|' => continue? g.alternate rest
      | '[' => do
        let (c, rest) ← readClass? g.mode rest
        continue? (g.add { pattern := one c.set, depth := c.depth }) rest
      | '*' => do continue? (← g.repeatLast? 0 none) (skipLazy rest)
      | '+' => do continue? (← g.repeatLast? 1 none) (skipLazy rest)
      | '?' => do continue? (← g.repeatLast? 0 (some 1)) (skipLazy rest)
      | '\x7b' => do
        let (least, most, rest) ← readCount? g.mode rest
        continue? (← g.repeatLast? least most) rest
      | '.' => do part? (← anyCharacter? g.mode) rest
      | '^' => part? (startAnchor g.mode) rest
      | '$' => part? (endAnchor g.mode) rest
      | '\\' => do
        let (e, rest) ← readEscape? g.mode rest
        part? (escaped g.mode e) rest
      | c => part? (character g.mode c) rest

/-- How deeply a pattern may be nested. -/
def depthLimit : Nat := 250

/-- The pattern that a text spells, if it is well formed, not nested too deeply and not too
large. -/
def ofText? (s : String) : Option Pattern := do
  let part ← readFrom? (s.length + 1) {} [] [] s.toList
  if part.depth ≤ depthLimit ∧ part.pattern.isAffordable then some part.pattern else none

end Conform.Pattern
