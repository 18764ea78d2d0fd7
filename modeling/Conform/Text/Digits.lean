/-
Runs of decimal digits.
-/
namespace Conform.Text

/-- The value of a run of ASCII digits that follows digits of the value `start`. -/
def digitsValue (start : Nat) (digits : List Char) : Nat :=
  digits.foldl (fun value c => value * 10 + (c.toNat - '0'.toNat)) start

/-- A sign, if the text begins with one: whether it is a minus, and what follows. -/
def splitSign : List Char → Bool × List Char
  | '-' :: rest => (true, rest)
  | '+' :: rest => (false, rest)
  | cs => (false, cs)

/-- Reads an integer: at most one sign, and at least one digit. -/
def readInt? (cs : List Char) : Option Int :=
  let (negative, digits) := splitSign cs
  if digits.isEmpty || !digits.all Char.isDigit then none
  else
    let size : Int := digitsValue 0 digits
    some (if negative then -size else size)

end Conform.Text
