/-
Digits that were written are read as what they stand for.

Numbers, integers and instants are all written with the digits of natural numbers, padded with
zeros here and there, and read again by taking digits off the front of a text.  What is needed of
that is shown here once: the digits of a number have its value, zeros before them change nothing,
and what is taken off a text that begins with digits is exactly these.
-/
import Conform.Number.Basic
import Conform.Text.Blank
import Conform.Text.Digits

namespace Conform.Text

open scoped Number

variable {digits rest : List Char} {c : Char} {n start : Nat}

/-! ### Values -/

theorem digitsValue_eq_ofDigitChars :
    digitsValue start digits = Nat.ofDigitChars 10 digits start := by
  unfold digitsValue Nat.ofDigitChars
  simp only [Nat.mul_comm 10]

theorem digitsValue_append (more : List Char) :
    digitsValue start (digits ++ more) = digitsValue (digitsValue start digits) more :=
  List.foldl_append

theorem digitsValue_toDigits : digitsValue 0 (Nat.toDigits 10 n) = n := by
  rw [digitsValue_eq_ofDigitChars]
  exact Nat.ofDigitChars_toDigits (by decide) (by decide)

theorem digitsValue_zeros (count : Nat) :
    digitsValue start (List.replicate count '0') = start * 10 ^ count := by
  rw [digitsValue_eq_ofDigitChars, Nat.ofDigitChars_replicate_zero, Nat.mul_comm]

/-- Zeros in front do not count. -/
theorem digitsValue_zeros_append (count : Nat) :
    digitsValue 0 (List.replicate count '0' ++ digits) = digitsValue 0 digits := by
  rw [digitsValue_append, digitsValue_zeros, Nat.zero_mul]

/-! ### Runs of digits -/

/-- Every character is a digit. -/
def AllDigits (cs : List Char) : Prop :=
  ∀ c ∈ cs, c.isDigit = true

theorem allDigits_toDigits (n : Nat) : AllDigits (Nat.toDigits 10 n) :=
  fun _ hc => Nat.isDigit_of_mem_toDigits (by decide) (by decide) hc

theorem allDigits_zeros (count : Nat) : AllDigits (List.replicate count '0') := by
  intro c hc
  rw [List.eq_of_mem_replicate hc]
  rfl

theorem AllDigits.append {more : List Char} (h : AllDigits digits) (hmore : AllDigits more) :
    AllDigits (digits ++ more) := by
  intro c hc
  exact (List.mem_append.1 hc).elim (h c) (hmore c)

theorem AllDigits.all (h : AllDigits digits) : digits.all Char.isDigit = true :=
  List.all_eq_true.2 h

/-- A run of digits is read up to where it ends. -/
theorem AllDigits.takeWhile (h : AllDigits digits) (hrest : ∀ c ∈ rest.head?, c.isDigit = false) :
    (digits ++ rest).takeWhile Char.isDigit = digits := by
  rw [List.takeWhile_append_of_pos h]
  cases rest with
  | nil => exact List.append_nil digits
  | cons c rest =>
      rw [List.takeWhile_cons_of_neg (Bool.eq_false_iff.1 (hrest c rfl)), List.append_nil]

theorem AllDigits.dropWhile (h : AllDigits digits) (hrest : ∀ c ∈ rest.head?, c.isDigit = false) :
    (digits ++ rest).dropWhile Char.isDigit = rest := by
  rw [List.dropWhile_append_of_pos h]
  cases rest with
  | nil => rfl
  | cons c rest => exact List.dropWhile_cons_of_neg (Bool.eq_false_iff.1 (hrest c rfl))

/-! ### Blanks -/

/-- A character of printable ASCII other than the space is no blank. -/
theorem isBlank_eq_false (hlow : 0x20 < c.toNat) (hhigh : c.toNat < 0x7f) : isBlank c = false := by
  unfold isBlank
  simp only [Bool.or_eq_false_iff, Bool.and_eq_false_iff, decide_eq_false_iff_not,
    beq_eq_false_iff_ne]
  omega

theorem isBlank_of_isDigit (h : c.isDigit = true) : isBlank c = false := by
  unfold Char.isDigit at h
  rw [Bool.and_eq_true, decide_eq_true_eq, decide_eq_true_eq] at h
  have hlow : 48 ≤ c.toNat := UInt32.le_iff_toNat_le.1 h.1
  have hhigh : c.toNat ≤ 57 := UInt32.le_iff_toNat_le.1 h.2
  exact isBlank_eq_false (by omega) (by omega)

theorem dropBlanks_eq_self {cs : List Char} (h : ∀ c ∈ cs.head?, isBlank c = false) :
    dropBlanks cs = cs := by
  cases cs with
  | nil => rfl
  | cons c cs => exact List.dropWhile_cons_of_neg (Bool.eq_false_iff.1 (h c rfl))

/-- A text that begins with digits has no blanks before it. -/
theorem AllDigits.dropBlanks (h : AllDigits digits) (hne : digits ≠ []) :
    dropBlanks (digits ++ rest) = digits ++ rest := by
  cases digits with
  | nil => exact absurd rfl hne
  | cons c digits =>
      refine dropBlanks_eq_self ?_
      rintro d ⟨⟩
      exact isBlank_of_isDigit (h c List.mem_cons_self)

/-- There is nothing to trim in a text without blanks. -/
theorem trim_eq_self {cs : List Char} (h : ∀ c ∈ cs, isBlank c = false) : trim cs = cs := by
  have hreverse : ∀ c ∈ cs.reverse.head?, isBlank c = false :=
    fun c hc => h c (List.mem_reverse.1 (List.mem_of_mem_head? hc))
  rw [trim, dropBlanks_eq_self fun c hc => h c (List.mem_of_mem_head? hc),
    dropBlanks_eq_self hreverse, List.reverse_reverse]

theorem mem_dropBlanks {cs : List Char} (hc : c ∈ cs) (hblank : isBlank c = false) :
    c ∈ dropBlanks cs := by
  rw [← List.takeWhile_append_dropWhile (p := isBlank) (l := cs), List.mem_append] at hc
  refine hc.resolve_left fun hbefore => ?_
  rw [List.all_eq_true.1 List.all_takeWhile c hbefore] at hblank
  cases hblank

/-- Trimming removes nothing but blanks. -/
theorem mem_trim {cs : List Char} (hc : c ∈ cs) (hblank : isBlank c = false) : c ∈ trim cs :=
  List.mem_reverse.2 (mem_dropBlanks (List.mem_reverse.2 (mem_dropBlanks hc hblank)) hblank)

/-! ### Integers -/

/-- No integer is read from a text with a character that is neither a digit nor a sign. -/
theorem readInt?_eq_none {cs : List Char} (hc : c ∈ cs) (hdigit : c.isDigit = false)
    (hminus : c ≠ '-') (hplus : c ≠ '+') : readInt? cs = none := by
  have hmem : c ∈ (splitSign cs).2 := by
    unfold splitSign
    split
    · exact (List.mem_cons.1 hc).resolve_left hminus
    · exact (List.mem_cons.1 hc).resolve_left hplus
    · exact hc
  have hall : (splitSign cs).2.all Char.isDigit = false := by
    rw [List.all_eq_false]
    exact ⟨c, hmem, Bool.eq_false_iff.1 hdigit⟩
  unfold readInt?
  dsimp only
  rw [hall, Bool.not_false, Bool.or_true, if_pos rfl]

end Conform.Text
