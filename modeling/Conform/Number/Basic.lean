/-
Double-precision numbers, held exactly.

A finite number is a sign, a significand and an exponent.  It stands for
`significand * 2 ^ exponent` quanta, where a quantum is the least positive number,
2 ^ -1074.  Counting in quanta makes every finite number an integer, so comparing
and rounding are arithmetic on `Nat` and nothing here is approximate.
-/
namespace Conform

namespace Number

/-- Powers are those of the core library, whatever else is imported. -/
scoped instance (priority := high) corePow : Pow Nat Nat := instPowNat

/-- How many quanta make one: a quantum is 2 ^ -1074. -/
def quantaPerUnit : Nat := 1 <<< 1074

/-- The least significand that fills its 53 bits. -/
def hiddenBit : Nat := 0x10000000000000

/-- The bit of the sign in a 64-bit word. -/
def signBit : Nat := 0x8000000000000000

/-- The largest exponent a finite number may have. -/
def maxExponent : Nat := 2045

/-- A significand and an exponent that name a number in the one way allowed: the
significand fills its 53 bits unless the exponent is the least one. -/
def Canonical (significand exponent : Nat) : Prop :=
  significand < 2 * hiddenBit ∧ (exponent = 0 ∨ hiddenBit ≤ significand) ∧ exponent ≤ maxExponent

instance (significand exponent : Nat) : Decidable (Canonical significand exponent) :=
  inferInstanceAs (Decidable (_ ∧ _ ∧ _))

theorem canonical_zero : Canonical 0 0 := by
  simp [Canonical, hiddenBit]

end Number

/-- A double-precision number. -/
inductive Number where
  | nan
  | infinite (negative : Bool)
  | finite (negative : Bool) (significand exponent : Nat)
      (canonical : Number.Canonical significand exponent)
  deriving DecidableEq

namespace Number

/-- Positive zero. -/
def zero : Number := .finite false 0 0 canonical_zero

instance : Inhabited Number := ⟨zero⟩

/-- The size of a finite number, in quanta; other numbers have none. -/
def quanta? : Number → Option Nat
  | .finite _ m e _ => some (m * 2 ^ e)
  | _ => none

/-- The number is NaN. -/
def isNaN : Number → Bool
  | .nan => true
  | _ => false

/-- The number is neither NaN nor infinite. -/
def isFinite : Number → Bool
  | .finite .. => true
  | _ => false

/-- The number has a minus sign, as negative zero has. -/
def isNegative : Number → Bool
  | .nan => false
  | .infinite negative => negative
  | .finite negative .. => negative

/-- Zero of either sign. -/
def isZero : Number → Bool
  | .finite _ m _ _ => m == 0
  | _ => false

/-! ### Order and equality -/

/-- Sameness of numbers: zero has no sign, and NaN is the same as itself. -/
def same : Number → Number → Bool
  | .nan, .nan => true
  | .infinite s, .infinite t => s == t
  | .finite s m e _, .finite t n f _ => m == n && e == f && (m == 0 || s == t)
  | _, _ => false

/-- `a ≤ b`, which NaN is on neither side of. -/
def atMost : Number → Number → Bool
  | .nan, _ => false
  | _, .nan => false
  | .infinite true, _ => true
  | _, .infinite false => true
  | .infinite false, _ => false
  | _, .infinite true => false
  | .finite s m e _, .finite t n f _ =>
    let a : Int := (m * 2 ^ e : Nat)
    let b : Int := (n * 2 ^ f : Nat)
    decide ((if s then -a else a) ≤ (if t then -b else b))

/-- `a < b`, which NaN is on neither side of. -/
def below (a b : Number) : Bool :=
  !a.isNaN && !b.isNaN && !b.atMost a

/-! ### Integers -/

/-- The integer a finite number is cut to when its fraction is dropped. -/
def truncate? : Number → Option Int
  | .finite negative m e _ =>
    let size : Int := (m * 2 ^ e / quantaPerUnit : Nat)
    some (if negative then -size else size)
  | _ => none

/-- The integer a number is equal to, if there is one. -/
def toInt? : Number → Option Int
  | .finite negative m e _ =>
    let count := m * 2 ^ e
    if count % quantaPerUnit = 0 then
      let size : Int := (count / quantaPerUnit : Nat)
      some (if negative then -size else size)
    else none
  | _ => none

/-- True of finite numbers without a fraction. -/
def isIntegral (n : Number) : Bool :=
  n.toInt?.isSome

/-! ### The 64-bit form -/

/-- The number that a 64-bit word encodes; every word with a full exponent and a
fraction is NaN. -/
def ofBits (bits : UInt64) : Number :=
  let word := bits.toNat
  let negative := decide (signBit ≤ word)
  let biased := word / hiddenBit % 2048
  let fraction := word % hiddenBit
  have fraction_lt : word % hiddenBit < hiddenBit := Nat.mod_lt _ (by decide)
  if _ : biased = 2047 then
    if fraction = 0 then .infinite negative else .nan
  else if _ : biased = 0 then
    .finite negative fraction 0 ⟨by omega, .inl rfl, by simp [maxExponent]⟩
  else
    .finite negative (hiddenBit + fraction) (biased - 1)
      ⟨by omega, .inr (by omega), by simp only [maxExponent]; omega⟩

/-- The word that encodes a number, with one word for every NaN. -/
def toBits : Number → UInt64
  | .nan => 0x7ff8000000000000
  | .infinite negative => if negative then 0xfff0000000000000 else 0x7ff0000000000000
  | .finite negative m e _ =>
    let sign := if negative then signBit else 0
    let magnitude := if m < hiddenBit then m else (e + 1) * hiddenBit + (m - hiddenBit)
    UInt64.ofNat (sign + magnitude)

/-- The sign, the exponent and the fraction are each read off the word they are put into. -/
theorem parts_of_word (negative : Bool) {biased fraction : Nat} (hbiased : biased < 2048)
    (hfraction : fraction < hiddenBit) {word : Nat}
    (hword : word = (if negative then signBit else 0) + (biased * hiddenBit + fraction)) :
    (UInt64.ofNat word).toNat = word ∧ decide (signBit ≤ word) = negative ∧
      word / hiddenBit % 2048 = biased ∧ word % hiddenBit = fraction := by
  simp only [hiddenBit, signBit] at *
  have sign : negative = false ∧ word = biased * 0x10000000000000 + fraction ∨
      negative = true ∧ word = 0x8000000000000000 + (biased * 0x10000000000000 + fraction) := by
    cases negative <;> simp [hword]
  refine ⟨?_, ?_, by omega, by omega⟩
  · rw [UInt64.toNat_ofNat']
    omega
  · rcases sign with ⟨rfl, _⟩ | ⟨rfl, _⟩
    · exact decide_eq_false (by omega)
    · exact decide_eq_true (by omega)

/-- Every number is what its word encodes. -/
theorem ofBits_toBits (n : Number) : ofBits n.toBits = n := by
  cases n with
  | nan => decide
  | infinite negative => cases negative <;> decide
  | finite negative m e canonical =>
    have ⟨m_lt, normal, e_le⟩ := canonical
    simp only [maxExponent] at e_le
    by_cases subnormal : m < hiddenBit
    · obtain rfl : e = 0 := by omega
      obtain ⟨word, sign, biased, fraction⟩ :=
        parts_of_word negative (by decide : 0 < 2048) subnormal rfl
      rw [Nat.zero_mul, Nat.zero_add] at word sign biased fraction
      simp only [ofBits, toBits, subnormal, if_true, word, sign, biased, fraction]
      rfl
    · have rest : m - hiddenBit < hiddenBit := by omega
      obtain ⟨word, sign, biased, fraction⟩ :=
        parts_of_word negative (by omega : e + 1 < 2048) rest rfl
      have refill : hiddenBit + (m - hiddenBit) = m := by omega
      have finite : ¬ e + 1 = 2047 := by omega
      simp only [ofBits, toBits, subnormal, if_false, word, sign, biased, fraction, finite,
        dite_false, refill, Nat.add_one_sub_one, Nat.add_one_ne_zero]

end Number

end Conform
