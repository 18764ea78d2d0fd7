/-
The modes in which a pattern is read.
-/
import Conform.Text.Blank
import Conform.Unicode.Folding

namespace Conform.Pattern

open Text (CharSet)

/-- The modes that a pattern can switch while it is read. -/
structure Mode where
  /-- Letters match whatever their case. -/
  ignoreCase : Bool := false
  /-- The line anchors look at every line, and not only at the whole text. -/
  multiLine : Bool := false
  /-- The point matches the end of a line too. -/
  dotAll : Bool := false
  /-- Carriage returns end lines too. -/
  carriageReturns : Bool := false
  /-- Classes hold characters of every script, and not those of ASCII alone. -/
  unicode : Bool := true
  /-- Blanks and comments in the pattern mean nothing. -/
  extended : Bool := false

namespace Mode

/-- What follows the blanks and the comments, where they mean nothing. -/
def skipSpace (mode : Mode) (cs : List Char) : List Char :=
  if mode.extended then go cs.length (Text.dropBlanks cs) else cs
where
  /-- Skips comments, each to the end of its line, and the blanks after them. -/
  go : Nat → List Char → List Char
    | fuel + 1, '#' :: rest => go fuel (Text.dropBlanks (rest.dropWhile (· != '\n')))
    | _, cs => cs

/-- The next characters, as many as asked for, with no blanks or comments between them
where these mean nothing. -/
def take? (mode : Mode) : Nat → List Char → Option (List Char × List Char)
  | 0, cs => some ([], cs)
  | n + 1, cs =>
    match mode.skipSpace cs with
    | [] => none
    | c :: rest => (mode.take? n rest).map fun (taken, rest) => (c :: taken, rest)

/-- What stands up to a closing brace, and what follows the brace. -/
def takeBraced? (mode : Mode) (cs : List Char) : Option (List Char × List Char) :=
  go cs.length cs
where
  /-- Takes no more characters than there is fuel. -/
  go : Nat → List Char → Option (List Char × List Char)
    | 0, _ => none
    | fuel + 1, cs =>
      match mode.skipSpace cs with
      | [] => none
      | '\x7d' :: rest => some ([], rest)
      | c :: rest => (go fuel rest).map fun (taken, rest) => (c :: taken, rest)

/-- The set in the case that the mode asks for. -/
def inCase (mode : Mode) (set : CharSet) : CharSet :=
  if !mode.ignoreCase then set
  else if mode.unicode then Unicode.anyCase set
  else Unicode.anyAsciiCase set

/-- The characters that are not in the set.  Outside Unicode these would be no whole
characters. -/
def negated? (mode : Mode) (set : CharSet) : Option CharSet :=
  if mode.unicode then some set.complement else none

end Mode

end Conform.Pattern
