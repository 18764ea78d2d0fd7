/-
Rounding an exact quotient to a number.

Every number that is computed rather than given comes from a quotient of natural
numbers, counted in quanta, through `ofQuotient`: the nearest number, the one with the
even significand when two are equally near, and infinity past the largest number.
Reading a decimal, converting an integer and dividing are special cases of it.
-/
import Conform.Number.Basic

namespace Conform.Number

/-- The integer nearest to `num / den`; halfway between two, the even one. -/
def nearestEven (num den : Nat) : Nat :=
  let quotient := num / den
  let twice := 2 * (num % den)
  if twice < den ∨ (twice = den ∧ quotient % 2 = 0) then quotient else quotient + 1

theorem le_nearestEven (num den : Nat) : num / den ≤ nearestEven num den := by
  simp only [nearestEven]
  split <;> omega

theorem nearestEven_le (num den : Nat) : nearestEven num den ≤ num / den + 1 := by
  simp only [nearestEven]
  split <;> omega

/-- How far the quotient has to be scaled down for its integer part to fit 53 bits. -/
def scaleOf (quotient : Nat) : Nat :=
  quotient.log2 - 52

theorem div_scale_lt (q : Nat) : q / 2 ^ scaleOf q < 2 * hiddenBit := by
  have hpower : 2 * hiddenBit * 2 ^ scaleOf q = 2 ^ (53 + scaleOf q) := by
    rw [Nat.pow_add]
    rfl
  rw [Nat.div_lt_iff_lt_mul (Nat.two_pow_pos _), hpower]
  refine Nat.lt_of_lt_of_le Nat.lt_log2_self (Nat.pow_le_pow_right (by decide) ?_)
  simp only [scaleOf]
  omega

/-- A quotient that was scaled fills its 53 bits. -/
theorem le_div_scale {q : Nat} (h : scaleOf q ≠ 0) : hiddenBit ≤ q / 2 ^ scaleOf q := by
  have hlog : 52 < q.log2 := by
    simp only [scaleOf] at h
    omega
  have hpower : hiddenBit * 2 ^ scaleOf q = 2 ^ (52 + scaleOf q) := by
    rw [Nat.pow_add]
    rfl
  rw [Nat.le_div_iff_mul_le (Nat.two_pow_pos _), hpower]
  have hsum : 52 + scaleOf q = q.log2 := by
    simp only [scaleOf]
    omega
  rw [hsum]
  refine Nat.log2_self_le ?_
  rintro rfl
  simp at hlog

/-- The number nearest to `num / den` quanta, with the given sign. -/
def ofQuotient (negative : Bool) (num den : Nat) : Number :=
  let quotient := num / den
  let exponent := scaleOf quotient
  let significand := nearestEven num (den * 2 ^ exponent)
  have quotient_eq : num / (den * 2 ^ exponent) = quotient / 2 ^ exponent :=
    (Nat.div_div_eq_div_mul ..).symm
  have upper : significand ≤ 2 * hiddenBit := by
    have above : significand ≤ num / (den * 2 ^ exponent) + 1 := nearestEven_le ..
    have below : quotient / 2 ^ exponent < 2 * hiddenBit := div_scale_lt quotient
    omega
  have lower : exponent = 0 ∨ hiddenBit ≤ significand := by
    by_cases h : exponent = 0
    · exact .inl h
    · have below : num / (den * 2 ^ exponent) ≤ significand := le_nearestEven ..
      have above : hiddenBit ≤ quotient / 2 ^ exponent := le_div_scale h
      exact .inr (by omega)
  if carried : significand = 2 * hiddenBit then
    if fits : exponent + 1 ≤ maxExponent then
      .finite negative (hiddenBit) (exponent + 1) ⟨by decide, .inr (Nat.le_refl _), fits⟩
    else .infinite negative
  else if fits : exponent ≤ maxExponent then
    .finite negative significand exponent ⟨by omega, lower, fits⟩
  else .infinite negative

/-! ### Integers -/

/-- The number nearest to a natural number. -/
def ofNat (n : Nat) : Number :=
  ofQuotient false (n * quantaPerUnit) 1

/-- The number nearest to an integer. -/
def ofInt (i : Int) : Number :=
  ofQuotient (decide (i < 0)) (i.natAbs * quantaPerUnit) 1

/-! ### Decimals -/

/-- The number nearest to `± digits * 10 ^ exponent`.

A decimal from 10 ^ 400 up is past every number and one below 10 ^ -400 is nearer to
zero than to any other, so neither needs its power of ten written out. -/
def ofDecimal (negative : Bool) (digits : Nat) (exponent : Int) : Number :=
  if digits = 0 then ofQuotient negative 0 1
  else if exponent ≥ 0 then
    if exponent > 400 then .infinite negative
    else ofQuotient negative (digits * 10 ^ exponent.toNat * quantaPerUnit) 1
  else if -exponent > digits.log2 + 401 then ofQuotient negative 0 1
  else ofQuotient negative (digits * quantaPerUnit) (10 ^ (-exponent).toNat)

/-! ### Division -/

/-- The quotient of two numbers, rounded. -/
def divide : Number → Number → Number
  | .nan, _ => .nan
  | _, .nan => .nan
  | .infinite _, .infinite _ => .nan
  | .infinite s, d => .infinite (s != d.isNegative)
  | n, .infinite t => ofQuotient (n.isNegative != t) 0 1
  | .finite s m e _, .finite t n f _ =>
    if n = 0 then if m = 0 then .nan else .infinite (s != t)
    else ofQuotient (s != t) (m * 2 ^ e * quantaPerUnit) (n * 2 ^ f)

/-! ### Multiples -/

/-- The quotient `n / d` is within four units in the last place of an integer, which is
how a decimal step such as a tenth is recognised although no number equals it.  Nothing
is a multiple of zero, and a quotient that is not finite is near no integer. -/
def isMultipleOf (n d : Number) : Bool :=
  !d.isZero &&
    match (n.divide d).quanta? with
    | none => false
    | some size =>
      let nearest := (2 * size + quantaPerUnit) / (2 * quantaPerUnit) * quantaPerUnit
      let distance := (size - nearest) + (nearest - size)
      decide ((distance <<< 50) ≤ max size quantaPerUnit)

end Conform.Number
