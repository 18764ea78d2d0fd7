/-
The text of instants: RFC 3339 with milliseconds and `Z` when written, and when read
any RFC 3339 time or a plain date, which means its midnight.
-/
import Conform.Instant.Basic
import Conform.Text.Blank
import Conform.Text.Digits

namespace Conform.Instant

open Text (digitsValue)

/-! ### Writing -/

/-- A natural number in at least `width` digits. -/
def padded (width n : Nat) : List Char :=
  let digits := Nat.toDigits 10 n
  List.replicate (width - digits.length) '0' ++ digits

/-- A year has four digits; outside of 0 to 9999 it has a sign and at least four. -/
def yearText (year : Int) : List Char :=
  if 0 ≤ year ∧ year ≤ 9999 then padded 4 year.toNat
  else (if year < 0 then '-' else '+') :: padded 4 year.natAbs

/-- The date and the time of day in UTC, to the millisecond.  A leap second is
second 60. -/
def text (t : Instant) : String :=
  let date := CalendarDate.ofDays (t.seconds / 86400)
  let time := (t.seconds % 86400).toNat
  let second := time % 60 + t.nanos / 1000000000
  let millis := t.nanos % 1000000000 / 1000000
  String.ofList <|
    yearText date.year ++ '-' :: padded 2 date.month ++ '-' :: padded 2 date.day ++
      'T' :: padded 2 (time / 3600) ++ ':' :: padded 2 (time / 60 % 60) ++
      ':' :: padded 2 second ++ '.' :: padded 3 millis ++ ['Z']

/-! ### Reading -/

/-- A number of exactly `width` digits, and what follows it. -/
def readDigits? (width : Nat) (cs : List Char) : Option (Nat × List Char) :=
  let digits := cs.take width
  if digits.length = width ∧ digits.all Char.isDigit then
    some (digitsValue 0 digits, cs.drop width)
  else none

/-- What follows the character `c`. -/
def skip? (c : Char) : List Char → Option (List Char)
  | d :: rest => if c = d then some rest else none
  | [] => none

/-- The fraction of a second, if there is one: a point and at least one digit, of which
those after the ninth mean nothing. -/
def readFraction? : List Char → Option (Nat × List Char)
  | '.' :: rest =>
    let digits := rest.takeWhile Char.isDigit
    if digits.isEmpty then none
    else
      let nanos := digitsValue 0 (digits.take 9) * Nat.pow 10 (9 - digits.length)
      some (nanos, rest.dropWhile Char.isDigit)
  | cs => some (0, cs)

/-- The offset from UTC in seconds: `Z`, or a sign, hours and minutes.  U+2212 is a
minus too. -/
def readOffset? : List Char → Option (Int × List Char)
  | [] => none
  | c :: rest =>
    if c = 'Z' ∨ c = 'z' then some (0, rest)
    else do
      let sign ←
        if c = '+' then some 1 else if c = '-' ∨ c = '\u2212' then some (-1 : Int) else none
      let (hours, rest) ← readDigits? 2 rest
      let rest ← skip? ':' rest
      let (minutes, rest) ← readDigits? 2 rest
      if hours ≤ 23 ∧ minutes ≤ 59 then
        some (sign * ((hours * 3600 + minutes * 60 : Nat) : Int), rest)
      else none

/-- The instant at a time of day, `second` possibly being 60, on a date of the calendar
at an offset from UTC. -/
def ofLocal? (date : CalendarDate) (hour minute second nanos : Nat) (offset : Int) :
    Option Instant :=
  if date.isValid ∧ hour ≤ 23 ∧ minute ≤ 59 ∧ second ≤ 60 then
    let (second, nanos) := if second = 60 then (59, nanos + 1000000000) else (second, nanos)
    let time : Int := (hour * 3600 + minute * 60 + second : Nat)
    ofUnix? (date.toDays * 86400 + time - offset) nanos
  else none

/-- Reads an RFC 3339 time.  Between date and time stands `T`, `t` or a space. -/
def ofRfc3339? (cs : List Char) : Option Instant := do
  let (year, cs) ← readDigits? 4 cs
  let cs ← skip? '-' cs
  let (month, cs) ← readDigits? 2 cs
  let cs ← skip? '-' cs
  let (day, cs) ← readDigits? 2 cs
  let cs ← skip? 'T' cs <|> skip? 't' cs <|> skip? ' ' cs
  let (hour, cs) ← readDigits? 2 cs
  let cs ← skip? ':' cs
  let (minute, cs) ← readDigits? 2 cs
  let cs ← skip? ':' cs
  let (second, cs) ← readDigits? 2 cs
  let (nanos, cs) ← readFraction? cs
  let (offset, cs) ← readOffset? cs
  if cs.isEmpty then ofLocal? ⟨year, month, day⟩ hour minute second nanos offset else none

/-- A number of at least one and at most `width` digits, blanks before it allowed. -/
def readNumber? (width : Nat) (cs : List Char) : Option (Nat × List Char) :=
  let cs := Text.dropBlanks cs
  let digits := (cs.take width).takeWhile Char.isDigit
  if digits.isEmpty then none else some (digitsValue 0 digits, cs.drop digits.length)

/-- A year: up to four digits, or any number of them after a sign. -/
def readYear? (cs : List Char) : Option (Int × List Char) :=
  let signed (sign : Int) (cs : List Char) : Option (Int × List Char) :=
    let digits := cs.takeWhile Char.isDigit
    if digits.isEmpty then none
    else some (sign * digitsValue 0 digits, cs.dropWhile Char.isDigit)
  match Text.dropBlanks cs with
  | '-' :: rest => signed (-1) rest
  | '+' :: rest => signed 1 rest
  | cs => (readNumber? 4 cs).map fun (year, rest) => (year, rest)

/-- Reads a date, as the midnight in UTC that it begins with. -/
def ofDate? (cs : List Char) : Option Instant := do
  let (year, cs) ← readYear? cs
  let cs ← skip? '-' cs
  let (month, cs) ← readNumber? 2 cs
  let cs ← skip? '-' cs
  let (day, cs) ← readNumber? 2 cs
  if cs.isEmpty then ofLocal? ⟨year, month, day⟩ 0 0 0 0 0 else none

/-- Reads an RFC 3339 time, or else a date. -/
def ofText? (cs : List Char) : Option Instant :=
  ofRfc3339? cs <|> ofDate? cs

end Conform.Instant
