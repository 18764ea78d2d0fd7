/-
Patterns: regular expressions over text.

A pattern says which stretches of a text it matches.  It is made of sets of characters,
anchors that look at the characters on both sides of a place, sequence, choice and
repetition.
-/
import Conform.Text.Word

namespace Conform

open Text (CharSet)

/-- A place with regard to the words of a text. -/
inductive WordPlace where
  /-- On one side there is a word character, and on the other there is none. -/
  | boundary
  /-- There is a word character on both sides or on none. -/
  | noBoundary
  | start
  | finish
  /-- No word character comes before. -/
  | startHalf
  /-- No word character comes after. -/
  | finishHalf
  deriving DecidableEq

/-- The place is such a one, told whether there is a word character before it and one
after it. -/
def WordPlace.holds (p : WordPlace) (before after : Bool) : Bool :=
  match p with
  | boundary => before != after
  | noBoundary => before == after
  | start => !before && after
  | finish => before && !after
  | startHalf => !before
  | finishHalf => !after

/-- A condition on a place in a text. -/
inductive Anchor where
  | textStart
  | textEnd
  /-- The start of a line, and never between a carriage return and a line feed if
  carriage returns end lines too. -/
  | lineStart (carriageReturns : Bool)
  /-- The end of a line, and never between a carriage return and a line feed if carriage
  returns end lines too. -/
  | lineEnd (carriageReturns : Bool)
  /-- A place in words, which are made of the word characters of ASCII alone if `ascii`. -/
  | word (place : WordPlace) (ascii : Bool)
  deriving DecidableEq

namespace Anchor

/-- The condition holds between the two characters, one of which is missing at either
end of the text. -/
def holds (a : Anchor) (before after : Option Char) : Bool :=
  match a with
  | textStart => before.isNone
  | textEnd => after.isNone
  | lineStart false => before.all (· == '\n')
  | lineStart true => before.all fun c => c == '\n' || (c == '\r' && after != some '\n')
  | lineEnd false => after.all (· == '\n')
  | lineEnd true => after.all fun c => c == '\r' || (c == '\n' && before != some '\r')
  | word place ascii =>
    let inWord := if ascii then Text.isAsciiWordChar else Text.isWordChar
    place.holds (before.any inWord) (after.any inWord)

end Anchor

/-- A regular expression. -/
inductive Pattern where
  /-- Nothing at all. -/
  | nothing
  /-- One character of the set. -/
  | one (set : CharSet)
  | anchor (a : Anchor)
  | seq (a b : Pattern)
  | either (a b : Pattern)
  /-- At least so many times the pattern, and at most so many if there is a most. -/
  | times (p : Pattern) (least : Nat) (most : Option Nat)
  /-- The pattern, with what it matches taken note of. -/
  | group (p : Pattern)

namespace Pattern

/-- The patterns one after the other. -/
def sequence : List Pattern → Pattern
  | [] => nothing
  | [p] => p
  | p :: rest => seq p (sequence rest)

/-- One of the patterns, of which there is at least one. -/
def choice (first : Pattern) : List Pattern → Pattern
  | [] => first
  | second :: rest => either first (choice second rest)

/-- The pattern matches no character, only places. -/
def takesNothing : Pattern → Bool
  | nothing => true
  | one _ => false
  | anchor _ => true
  | seq a b => a.takesNothing && b.takesNothing
  | either a b => a.takesNothing && b.takesNothing
  | times p _ _ => p.takesNothing
  | group p => p.takesNothing

/-- The pattern may match a place where it takes no character. -/
def mayTakeNothing : Pattern → Bool
  | nothing => true
  | one _ => false
  | anchor _ => true
  | seq a b => a.mayTakeNothing && b.mayTakeNothing
  | either a b => a.mayTakeNothing || b.mayTakeNothing
  | times p least _ => least == 0 || p.mayTakeNothing
  | group p => p.mayTakeNothing

/-- The pattern repeated.  What takes nothing is as good once as any number of times. -/
def repeated (p : Pattern) (least : Nat) (most : Option Nat) : Pattern :=
  let (least, most) := if p.takesNothing then (min least 1, some (min (most.getD 1) 1))
    else (least, most)
  if most = some 0 then nothing
  else if least = 1 ∧ most = some 1 then p
  else times p least most

end Pattern

end Conform
