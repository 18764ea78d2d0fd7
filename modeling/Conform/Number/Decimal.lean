/-
Decimal text of numbers.

A number is written with the fewest digits that read back as it.  Written as
`digits * 10 ^ exponent`, fewest digits means the largest exponent, so the writer
walks the powers of ten from coarse to fine and stops at the first whose grid has a
point that reads back as the number.  Numbers are always written positionally, never
with an exponent, and the reader takes both.
-/
import Conform.Number.Rounding
import Conform.Text.Digits

namespace Conform

/-- The decimal `digits * 10 ^ exponent`. -/
structure Decimal where
  digits : Nat
  exponent : Int
  deriving DecidableEq, Repr

namespace Decimal

/-- The number nearest to a decimal. -/
def toNumber (d : Decimal) (negative : Bool) : Number :=
  Number.ofDecimal negative d.digits d.exponent

/-- The digits of a decimal around a point, without an exponent. -/
def positional (d : Decimal) : List Char :=
  let digits := Nat.toDigits 10 d.digits
  if d.exponent ≥ 0 then
    digits ++ List.replicate d.exponent.toNat '0'
  else
    let places := (-d.exponent).toNat
    let padded := List.replicate (places + 1 - digits.length) '0' ++ digits
    padded.take (padded.length - places) ++ '.' :: padded.drop (padded.length - places)

end Decimal

namespace Number

/-- The point of the grid of multiples of `10 ^ exponent` that is nearest to `n` of the
two around it, if it reads back as `n`.  Of two points equally near the larger wins. -/
def decimalOn? (n : Number) (exponent : Int) : Option Decimal :=
  match n with
  | .finite negative m e _ =>
    let num := m * 2 ^ e * 10 ^ (-exponent).toNat
    let den := quantaPerUnit * 10 ^ exponent.toNat
    let lower : Decimal := ⟨num / den, exponent⟩
    let upper : Decimal := ⟨num / den + 1, exponent⟩
    let readsBack (d : Decimal) : Bool := d.toNumber negative == n
    if readsBack upper && (den ≤ 2 * (num % den) || !readsBack lower) then some upper
    else if readsBack lower then some lower
    else none
  | _ => none

/-- The first of the grids `10 ^ exponent`, `10 ^ (exponent - 1)`, …, one for each unit
of `steps`, that has a point which reads back as `n`. -/
def shortestFrom (n : Number) (exponent : Int) : (steps : Nat) → Decimal
  | 0 => ⟨0, 0⟩
  | steps + 1 =>
    match n.decimalOn? exponent with
    | some d => d
    | none => n.shortestFrom (exponent - 1) steps

/-- The decimal with the fewest digits that reads back as a finite number.  The walk
starts at a power of ten above the number and ends at 10 ^ -1074, on whose grid every
number lies. -/
def shortest (n : Number) : Decimal :=
  let whole := (n.quanta?.getD 0) / quantaPerUnit
  let start := (Nat.toDigits 10 whole).length
  n.shortestFrom start (start + 1075)

/-- The text of a number: zero has no sign, and a whole number no fraction. -/
def text : Number → String
  | .nan => "NaN"
  | .infinite negative => if negative then "-Infinity" else "Infinity"
  | n =>
    if n.isZero then "0"
    else
      let digits := String.ofList n.shortest.positional
      if n.isNegative then "-" ++ digits else digits

/-! ### Reading -/

/-- An exponent at the end of a decimal: nothing, or `e` and a signed run of digits. -/
def exponentOf? : List Char → Option Int
  | [] => some 0
  | c :: rest =>
    if c == 'e' || c == 'E' then Text.readInt? rest else none

/-- An unsigned decimal: digits with an optional point among or beside them, at least
one digit in all, and an optional exponent. -/
def decimalOf? (cs : List Char) : Option Decimal :=
  let whole := cs.takeWhile Char.isDigit
  let afterWhole := cs.dropWhile Char.isDigit
  let (fraction, rest) :=
    match afterWhole with
    | '.' :: more => (more.takeWhile Char.isDigit, more.dropWhile Char.isDigit)
    | _ => ([], afterWhole)
  if whole.isEmpty && fraction.isEmpty then none
  else
    (exponentOf? rest).map fun exponent =>
      ⟨Text.digitsValue (Text.digitsValue 0 whole) fraction, exponent - fraction.length⟩

/-- Reads a number: a sign, then a decimal or one of the words for infinity and NaN in
any case of letters. -/
def ofText? (s : String) : Option Number :=
  let (negative, cs) := Text.splitSign s.toList
  let word := String.ofList (cs.map Char.toLower)
  if word == "inf" || word == "infinity" then some (.infinite negative)
  else if word == "nan" then some .nan
  else (decimalOf? cs).map (·.toNumber negative)

end Number

end Conform
