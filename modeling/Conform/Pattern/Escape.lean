/-
Escapes: what a backslash in a pattern means.
-/
import Conform.Pattern.Basic
import Conform.Pattern.Mode
import Conform.Unicode.Query

namespace Conform.Pattern

open Text (CharSet)

/-- What an escape stands for. -/
inductive Escape where
  | char (c : Char)
  | set (s : CharSet)
  | anchor (a : Anchor)

/-! ### Code points -/

/-- The value of a hexadecimal digit of either case. -/
def hexValue? (c : Char) : Option Nat :=
  if c.isDigit then some (c.toNat - '0'.toNat)
  else if 'a' ≤ c ∧ c ≤ 'f' then some (c.toNat - 'a'.toNat + 10)
  else if 'A' ≤ c ∧ c ≤ 'F' then some (c.toNat - 'A'.toNat + 10)
  else none

/-- The character with the code point that the hexadecimal digits spell. -/
def hexChar? (digits : List Char) : Option Char := do
  let values ← digits.mapM hexValue?
  let n := values.foldl (fun n d => min (n * 16 + d) 0x110000) 0
  if values.isEmpty ∨ ¬ n.isValidChar then none else some (Char.ofNat n)

/-- A code point: any number of hexadecimal digits in braces, or exactly `width`.  Two
digits without braces mean a byte outside Unicode, and none beyond ASCII is a whole
character. -/
def readHex? (mode : Mode) (width : Nat) (cs : List Char) : Option (Char × List Char) := do
  match mode.skipSpace cs with
  | '\x7b' :: rest =>
    let (digits, rest) ← mode.takeBraced? rest
    let c ← hexChar? digits
    some (c, rest)
  | cs =>
    let (digits, rest) ← mode.take? width cs
    let c ← hexChar? digits
    if width = 2 ∧ !mode.unicode ∧ 0x80 ≤ c.toNat then none else some (c, rest)

/-! ### Classes -/

/-- A class with a letter of its own.  Outside Unicode it is the part in ASCII. -/
def letterClass (mode : Mode) (all ascii : CharSet) : CharSet :=
  if mode.unicode then all else ascii

/-- The digits. -/
def digits (mode : Mode) : CharSet :=
  letterClass mode Unicode.decimalNumber (.ofRange 0x30 0x39)

/-- The blanks. -/
def blanks (mode : Mode) : CharSet :=
  letterClass mode Unicode.whiteSpace (.ofRanges [(0x9, 0xd), (0x20, 0x20)])

/-- The word characters. -/
def wordChars (mode : Mode) : CharSet :=
  letterClass mode Text.wordChars Text.asciiWordChars

/-- What stands before and after the first place where the mark stands. -/
def splitAtMark? (mark : List Char) : List Char → Option (List Char × List Char)
  | [] => none
  | c :: rest =>
    if mark.isPrefixOf (c :: rest) then some ([], (c :: rest).drop mark.length)
    else (splitAtMark? mark rest).map fun (before, after) => (c :: before, after)

/-- The set that the text in braces asks for by the name of a property, or by a property
and a value with `!=`, `:` or `=` between them, and whether it is meant negated. -/
def propertySet? (text : List Char) : Option (CharSet × Bool) :=
  let valued? (parts : List Char × List Char) (negated : Bool) : Option (CharSet × Bool) :=
    (Unicode.valued? (String.ofList parts.1) (String.ofList parts.2)).map (·, negated)
  match splitAtMark? ['!', '='] text with
  | some parts => valued? parts true
  | none =>
    match splitAtMark? [':'] text with
    | some parts => valued? parts false
    | none =>
      match splitAtMark? ['='] text with
      | some parts => valued? parts false
      | none => (Unicode.named? (String.ofList text)).map (·, false)

/-- Reads a property, from after its letter: a text in braces or a single character.
`negated` says whether the letter negates it.  Outside Unicode there are no properties. -/
def readProperty? (mode : Mode) (negated : Bool) (cs : List Char) :
    Option (CharSet × List Char) := do
  let (text, rest) ← match mode.skipSpace cs with
    | [] | '\\' :: _ => none
    | '\x7b' :: rest => mode.takeBraced? rest
    | c :: rest => some ([c], rest)
  let (set, otherwise) ← propertySet? text
  if !mode.unicode then none
  else
    let set := mode.inCase set
    some (if negated != otherwise then set.complement else set, rest)

/-! ### Anchors -/

/-- The places in words with a name in braces. -/
def namedPlace? (name : String) : Option WordPlace :=
  match name with
  | "start" => some .start
  | "end" => some .finish
  | "start-half" => some .startHalf
  | "end-half" => some .finishHalf
  | _ => none

/-- The place of `\b`, which a name in braces may follow.  Braces that hold no name are
left for a count. -/
def readBoundary? (mode : Mode) (cs : List Char) : Option (WordPlace × List Char) :=
  match cs with
  | '\x7b' :: inner =>
    match mode.skipSpace inner with
    | [] => none
    | c :: _ =>
      if c.isAlpha || c == '-' then do
        let (name, rest) ← mode.takeBraced? inner
        let place ← namedPlace? (String.ofList name)
        some (place, rest)
      else some (.boundary, cs)
  | _ => some (.boundary, cs)

/-! ### All escapes -/

/-- Reads what follows a backslash.  Any other ASCII character than a letter or a digit
may be escaped to mean itself, and those letters that have no meaning may not. -/
def readEscape? (mode : Mode) : List Char → Option (Escape × List Char)
  | [] => none
  | c :: rest =>
    let set (s : CharSet) := some (Escape.set s, rest)
    let negated (s : CharSet) := (mode.negated? s).map fun s => (Escape.set s, rest)
    let char (c : Char) := some (Escape.char c, rest)
    let place (p : WordPlace) := some (Escape.anchor (.word p !mode.unicode), rest)
    let hex (width : Nat) := (readHex? mode width rest).map fun (c, rest) => (Escape.char c, rest)
    let property (negated : Bool) :=
      (readProperty? mode negated rest).map fun (s, rest) => (Escape.set s, rest)
    match c with
    | 'd' => set (digits mode)
    | 'D' => negated (digits mode)
    | 's' => set (blanks mode)
    | 'S' => negated (blanks mode)
    | 'w' => set (wordChars mode)
    | 'W' => negated (wordChars mode)
    | 'p' => property false
    | 'P' => property true
    | 'x' => hex 2
    | 'u' => hex 4
    | 'U' => hex 8
    | 'a' => char '\x07'
    | 'f' => char '\x0c'
    | 'n' => char '\n'
    | 'r' => char '\r'
    | 't' => char '\t'
    | 'v' => char '\x0b'
    | 'A' => some (.anchor .textStart, rest)
    | 'z' => some (.anchor .textEnd, rest)
    | 'b' => (readBoundary? mode rest).map fun (p, rest) => (.anchor (.word p !mode.unicode), rest)
    | 'B' => place .noBoundary
    | '<' => place .start
    | '>' => place .finish
    | c => if c.toNat < 0x80 && !c.isAlphanum then char c else none

end Conform.Pattern
