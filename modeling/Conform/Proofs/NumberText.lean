/-
A number reads back from its text.

The writer takes a point of a grid of decimals only if that reads back, so all that could go wrong
is that no grid on its way has such a point.  The last one has: a number is a multiple of a power of
two that is a multiple of the power of ten with as many places, and a multiple of a quantum is
rounded to itself.  From there it is a matter of characters, that is, of taking the text apart where
the writer put it together.
-/
import Conform.Number.Decimal
import Conform.Proofs.Digits
import Mathlib.Data.List.TakeWhile

namespace Conform.Number

variable {m e : Nat}

/-! ### Exact quotients -/

theorem scaleOf_of_canonical (canonical : Canonical m e) : scaleOf (m * 2 ^ e) = e := by
  obtain ⟨hupper, hlower, -⟩ := canonical
  have htwo : 2 * hiddenBit = 2 ^ 53 := rfl
  rcases Nat.eq_zero_or_pos e with rfl | he
  · unfold scaleOf
    rcases Nat.eq_zero_or_pos m with rfl | hm
    · rfl
    · have hlog : (m * 2 ^ 0).log2 < 53 := (Nat.log2_lt (by omega)).2 (by omega)
      omega
  · have hfull : hiddenBit ≤ m := hlower.resolve_left (by omega)
    have hlow : hiddenBit * 2 ^ e = 2 ^ (52 + e) := (Nat.pow_add 2 52 e).symm
    have hhigh : 2 * hiddenBit * 2 ^ e = 2 ^ (52 + e + 1) := by
      rw [Nat.pow_succ, ← hlow, Nat.mul_comm _ 2, Nat.mul_assoc]
    have hpos : 0 < 2 ^ (52 + e) := Nat.two_pow_pos _
    have hge : 2 ^ (52 + e) ≤ m * 2 ^ e := hlow ▸ Nat.mul_le_mul_right _ hfull
    have hlt : m * 2 ^ e < 2 ^ (52 + e + 1) :=
      hhigh ▸ Nat.mul_lt_mul_of_pos_right hupper (Nat.two_pow_pos e)
    have hlog : (m * 2 ^ e).log2 = 52 + e := (Nat.log2_eq_iff (by omega)).2 ⟨hge, hlt⟩
    unfold scaleOf
    omega

theorem nearestEven_mul {den : Nat} (hden : 0 < den) : nearestEven (m * den) den = m := by
  unfold nearestEven
  rw [Nat.mul_div_cancel m hden, Nat.mul_mod_left, if_pos (Or.inl hden)]

theorem ofQuotient_of_canonical (negative : Bool) (canonical : Canonical m e) {den : Nat}
    (hden : 0 < den) :
    ofQuotient negative (m * 2 ^ e * den) den = .finite negative m e canonical := by
  have hquotient : m * 2 ^ e * den / den = m * 2 ^ e := Nat.mul_div_cancel _ hden
  have hscale : scaleOf (m * 2 ^ e) = e := scaleOf_of_canonical canonical
  have hsignificand : nearestEven (m * 2 ^ e * den) (den * 2 ^ e) = m := by
    rw [Nat.mul_assoc, Nat.mul_comm (2 ^ e)]
    exact nearestEven_mul (Nat.mul_pos hden (Nat.two_pow_pos e))
  have hfull : m ≠ 2 * hiddenBit := Nat.ne_of_lt canonical.1
  unfold ofQuotient
  simp only [hquotient, hscale, hsignificand]
  rw [dif_neg hfull, dif_pos canonical.2.2]

/-! ### The grid on which every number lies -/

theorem ten_pow (k : Nat) : 10 ^ k = 5 ^ k * 2 ^ k :=
  Nat.mul_pow 5 2 k

/-- The decimal places of a quantum. -/
def quantumPlaces : Nat := 1074

theorem quantaPerUnit_eq : quantaPerUnit = 2 ^ quantumPlaces :=
  Nat.one_shiftLeft quantumPlaces

/-- A decimal that is not far below its digits is rounded as the quotient it is. -/
theorem ofDecimal_of_fraction (negative : Bool) {digits places : Nat} (hdigits : digits ≠ 0)
    (hplaces : 0 < places) (hnear : places ≤ digits.log2 + 401) :
    ofDecimal negative digits (-(places : Int)) =
      ofQuotient negative (digits * quantaPerUnit) (10 ^ places) := by
  unfold ofDecimal
  rw [if_neg hdigits, if_neg (by omega), if_neg (by omega), Int.neg_neg, Int.toNat_natCast]

/-- Every number is a multiple of the power of ten with the places of a quantum. -/
theorem ofDecimal_finest (negative : Bool) (canonical : Canonical m e) (hm : m ≠ 0) :
    ofDecimal negative (m * 2 ^ e * 5 ^ quantumPlaces) (-(quantumPlaces : Int)) =
      .finite negative m e canonical := by
  have hpos : 0 < m * 2 ^ e := Nat.mul_pos (Nat.pos_of_ne_zero hm) (Nat.two_pow_pos e)
  have hpower : 2 ^ quantumPlaces ≤ m * 2 ^ e * 5 ^ quantumPlaces :=
    Nat.le_trans (Nat.pow_le_pow_left (by decide) _) (Nat.le_mul_of_pos_left _ hpos)
  have hdigits : m * 2 ^ e * 5 ^ quantumPlaces ≠ 0 :=
    Nat.ne_of_gt (Nat.lt_of_lt_of_le (Nat.two_pow_pos _) hpower)
  have hnear : quantumPlaces ≤ (m * 2 ^ e * 5 ^ quantumPlaces).log2 :=
    (Nat.le_log2 hdigits).2 hpower
  rw [ofDecimal_of_fraction negative hdigits (by decide) (by omega), quantaPerUnit_eq,
    Nat.mul_assoc, ← ten_pow]
  exact ofQuotient_of_canonical negative canonical (Nat.pow_pos (by decide))

/-! ### The shortest decimal -/

variable {n : Number} {d : Decimal}

theorem toNumber_of_decimalOn {exponent : Int} (h : n.decimalOn? exponent = some d) :
    d.toNumber n.isNegative = n := by
  unfold decimalOn? at h
  cases n with
  | nan => cases h
  | infinite negative => cases h
  | finite negative m e canonical =>
      dsimp only at h
      split at h
      · rename_i hupper
        rw [Bool.and_eq_true, beq_iff_eq] at hupper
        cases h
        exact hupper.1
      · split at h
        · rename_i hlower
          cases h
          exact beq_iff_eq.1 hlower
        · cases h

theorem isSome_decimalOn {exponent : Int} {negative : Bool} {canonical : Canonical m e}
    (h : ofDecimal negative
        (m * 2 ^ e * 10 ^ (-exponent).toNat / (quantaPerUnit * 10 ^ exponent.toNat)) exponent =
      finite negative m e canonical) :
    ((finite negative m e canonical).decimalOn? exponent).isSome = true := by
  unfold decimalOn? Decimal.toNumber
  dsimp only
  split
  · rfl
  · rw [if_pos (beq_iff_eq.2 h)]
    rfl

/-- The finest grid has a point for every number. -/
theorem isSome_decimalOn_finest (negative : Bool) (canonical : Canonical m e) (hm : m ≠ 0) :
    ((finite negative m e canonical).decimalOn? (-(quantumPlaces : Int))).isSome = true := by
  have hpoint : m * 2 ^ e * 10 ^ quantumPlaces / (quantaPerUnit * 10 ^ 0) =
      m * 2 ^ e * 5 ^ quantumPlaces := by
    rw [Nat.pow_zero, Nat.mul_one, quantaPerUnit_eq, ten_pow, ← Nat.mul_assoc]
    exact Nat.mul_div_cancel _ (Nat.two_pow_pos _)
  refine isSome_decimalOn ?_
  rw [Int.neg_neg, Int.toNat_natCast, Int.toNat_neg_natCast, hpoint]
  exact ofDecimal_finest negative canonical hm

/-- The walk ends on a grid that has a point, if it comes to one. -/
theorem exists_decimalOn_shortestFrom {exponent : Int} {steps k : Nat} (hk : k < steps)
    (h : (n.decimalOn? (exponent - k)).isSome = true) :
    ∃ found, n.decimalOn? found = some (n.shortestFrom exponent steps) := by
  induction steps generalizing exponent k with
  | zero => omega
  | succ steps ih =>
      unfold shortestFrom
      cases hfirst : n.decimalOn? exponent with
      | some d => exact ⟨exponent, hfirst⟩
      | none =>
          cases k with
          | zero =>
              rw [Int.natCast_zero, Int.sub_zero, hfirst] at h
              cases h
          | succ k =>
              refine ih (Nat.lt_of_succ_lt_succ hk) ?_
              rw [show exponent - 1 - k = exponent - (k + 1 : Nat) by omega]
              exact h

theorem toNumber_shortest (hfinite : n.isFinite = true) (hzero : n.isZero = false) :
    n.shortest.toNumber n.isNegative = n := by
  cases n with
  | nan => cases hfinite
  | infinite negative => cases hfinite
  | finite negative m e canonical =>
      have hm : m ≠ 0 := fun h => by
        rw [isZero, h] at hzero
        cases hzero
      unfold shortest
      dsimp only
      -- Wherever the walk starts, its last step is to the finest grid.
      generalize (Nat.toDigits 10 _).length = start
      have hfinest : ((finite negative m e canonical).decimalOn?
          ((start : Int) - (start + quantumPlaces : Nat))).isSome = true := by
        rw [show (start : Int) - (start + quantumPlaces : Nat) = -(quantumPlaces : Int) by omega]
        exact isSome_decimalOn_finest negative canonical hm
      obtain ⟨found, hfound⟩ := exists_decimalOn_shortestFrom (Nat.lt_succ_self _) hfinest
      exact toNumber_of_decimalOn hfound

end Conform.Number

namespace Conform

open Text (AllDigits digitsValue)
open scoped Number

/-! ### Reading what was written -/

namespace Decimal

variable {d : Decimal} {whole fraction : List Char}

/-- Digits around a point, which is left out if none follow. -/
def pointed (whole fraction : List Char) : List Char :=
  whole ++ if fraction.isEmpty then [] else '.' :: fraction

/-- The text of a decimal has these digits before and after the point, and they have the value of
the decimal. -/
structure SpelledAs (d : Decimal) (whole fraction : List Char) : Prop where
  text : d.positional = pointed whole fraction
  begins : whole ≠ []
  allDigits : AllDigits (whole ++ fraction)
  value : digitsValue 0 (whole ++ fraction) = d.digits * 10 ^ d.exponent.toNat
  places : -(fraction.length : Int) = min d.exponent 0

theorem SpelledAs.allDigits_whole (h : d.SpelledAs whole fraction) : AllDigits whole :=
  fun c hc => h.allDigits c (List.mem_append_left _ hc)

theorem SpelledAs.allDigits_fraction (h : d.SpelledAs whole fraction) : AllDigits fraction :=
  fun c hc => h.allDigits c (List.mem_append_right _ hc)

/-- A decimal without places ends with the zeros that its exponent asks for. -/
theorem spelledAs_of_nonneg (hexponent : 0 ≤ d.exponent) :
    d.SpelledAs (Nat.toDigits 10 d.digits ++ List.replicate d.exponent.toNat '0') [] where
  text := by
    rw [positional, if_pos hexponent, pointed]
    exact (List.append_nil _).symm
  begins := List.append_ne_nil_of_left_ne_nil Nat.toDigits_ne_nil _
  allDigits := by
    rw [List.append_nil]
    exact (Text.allDigits_toDigits _).append (Text.allDigits_zeros _)
  value := by
    rw [List.append_nil, Text.digitsValue_append, Text.digitsValue_toDigits,
      Text.digitsValue_zeros]
  places := (Int.min_eq_right hexponent).symm

/-- The digits of a decimal, with zeros before them if there are no more than it has places. -/
def padded (d : Decimal) : List Char :=
  List.replicate ((-d.exponent).toNat + 1 - (Nat.toDigits 10 d.digits).length) '0' ++
    Nat.toDigits 10 d.digits

/-- Where the digits before the point end. -/
def split (d : Decimal) : Nat :=
  d.padded.length - (-d.exponent).toNat

theorem places_lt_length_padded : (-d.exponent).toNat < d.padded.length := by
  rw [padded, List.length_append, List.length_replicate]
  omega

/-- A decimal with places has the point before that many digits. -/
theorem spelledAs_of_neg (hexponent : d.exponent < 0) :
    d.SpelledAs (d.padded.take d.split) (d.padded.drop d.split) := by
  have hlength : (-d.exponent).toNat < d.padded.length := places_lt_length_padded
  have hfraction : (d.padded.drop d.split).length = (-d.exponent).toNat := by
    rw [List.length_drop, split]
    omega
  constructor
  case text =>
    have hsome : (d.padded.drop d.split).isEmpty = false := by
      rw [List.isEmpty_eq_false_iff, ← List.length_pos_iff, hfraction]
      omega
    rw [positional, if_neg (by omega), pointed, hsome]
    rfl
  case begins =>
    rw [← List.length_pos_iff, List.length_take, split]
    omega
  case allDigits =>
    rw [List.take_append_drop]
    exact (Text.allDigits_zeros _).append (Text.allDigits_toDigits _)
  case value =>
    rw [List.take_append_drop, padded, Text.digitsValue_zeros_append, Text.digitsValue_toDigits,
      Int.toNat_of_nonpos (by omega), Nat.pow_zero, Nat.mul_one]
  case places => omega

theorem exists_spelledAs (d : Decimal) : ∃ whole fraction, d.SpelledAs whole fraction := by
  by_cases hexponent : 0 ≤ d.exponent
  · exact ⟨_, _, spelledAs_of_nonneg hexponent⟩
  · exact ⟨_, _, spelledAs_of_neg (by omega)⟩

theorem exists_cons_positional (d : Decimal) :
    ∃ c cs, d.positional = c :: cs ∧ c.isDigit = true := by
  obtain ⟨whole, fraction, h⟩ := d.exists_spelledAs
  obtain ⟨c, cs, rfl⟩ := List.exists_cons_of_ne_nil h.begins
  exact ⟨c, _, h.text, h.allDigits_whole c List.mem_cons_self⟩

theorem isBlank_of_mem_positional {c : Char} (hc : c ∈ d.positional) : Text.isBlank c = false := by
  obtain ⟨whole, fraction, h⟩ := d.exists_spelledAs
  rw [h.text, pointed, List.mem_append] at hc
  rcases hc with hdigit | hpoint
  · exact Text.isBlank_of_isDigit (h.allDigits_whole c hdigit)
  · split at hpoint
    · exact absurd hpoint List.not_mem_nil
    · rcases List.mem_cons.1 hpoint with rfl | hdigit
      · rfl
      · exact Text.isBlank_of_isDigit (h.allDigits_fraction c hdigit)

/-- The decimal with the powers of ten written out. -/
def plain (d : Decimal) : Decimal :=
  ⟨d.digits * 10 ^ d.exponent.toNat, min d.exponent 0⟩

theorem toNumber_plain {negative : Bool} (h : (d.toNumber negative).isFinite = true) :
    d.plain.toNumber negative = d.toNumber negative := by
  unfold toNumber plain at *
  by_cases hexponent : 0 ≤ d.exponent
  · have hmin : min d.exponent 0 = 0 := Int.min_eq_right hexponent
    rw [hmin]
    dsimp only
    unfold Number.ofDecimal at *
    rw [if_pos hexponent] at *
    by_cases hdigits : d.digits = 0
    · rw [hdigits, Nat.zero_mul]
      rfl
    · by_cases hlarge : 400 < d.exponent
      · rw [if_neg hdigits, if_pos hlarge] at h
        cases h
      · have hpower : 0 < 10 ^ d.exponent.toNat := Nat.pow_pos (by decide)
        rw [if_neg hdigits, if_neg hlarge, if_neg (Nat.mul_ne_zero hdigits (Nat.ne_of_gt hpower)),
          if_pos (by decide), if_neg (by decide), Int.toNat_zero, Nat.pow_zero, Nat.mul_one]
  · rw [Int.toNat_of_nonpos (by omega), Nat.pow_zero, Nat.mul_one, Int.min_eq_left (by omega)]

end Decimal

namespace Number

variable {whole fraction : List Char}

theorem decimalOf?_pointed (hne : whole ≠ []) (hwhole : AllDigits whole)
    (hfraction : AllDigits fraction) :
    decimalOf? (Decimal.pointed whole fraction) =
      some ⟨digitsValue 0 (whole ++ fraction), -(fraction.length : Int)⟩ := by
  have hwhole? : whole.isEmpty = false := List.isEmpty_eq_false_iff.2 hne
  cases fraction with
  | nil =>
      have hnone : ∀ c ∈ ([] : List Char).head?, c.isDigit = false := by
        rintro c ⟨⟩
      show decimalOf? (whole ++ []) = _
      unfold decimalOf?
      rw [hwhole.takeWhile hnone, hwhole.dropWhile hnone]
      dsimp only
      rw [hwhole?, List.append_nil]
      rfl
  | cons first rest =>
      have hpoint : ∀ c ∈ ('.' :: first :: rest).head?, c.isDigit = false := by
        rintro c ⟨⟩
        rfl
      show decimalOf? (whole ++ '.' :: first :: rest) = _
      unfold decimalOf?
      rw [hwhole.takeWhile hpoint, hwhole.dropWhile hpoint]
      dsimp only
      split
      · rename_i more hmore
        obtain rfl := (List.cons.inj hmore).2
        rw [hwhole?, Text.digitsValue_append, List.takeWhile_eq_self_iff.2 hfraction,
          List.dropWhile_eq_nil_iff.2 hfraction, Bool.false_and, if_neg Bool.false_ne_true]
        exact congrArg (fun exponent => some (Decimal.mk _ exponent)) (Int.zero_sub _)
      · rename_i hother
        exact absurd rfl (hother (first :: rest))

theorem decimalOf?_positional (d : Decimal) : decimalOf? d.positional = some d.plain := by
  obtain ⟨whole, fraction, h⟩ := d.exists_spelledAs
  rw [h.text, decimalOf?_pointed h.begins h.allDigits_whole h.allDigits_fraction, h.value, h.places]
  rfl

theorem toLower_of_isDigit {c : Char} (hc : c.isDigit = true) : c.toLower = c := by
  unfold Char.isDigit at hc
  rw [Bool.and_eq_true, decide_eq_true_eq, decide_eq_true_eq] at hc
  have hbelow : c.val.toNat ≤ 57 := UInt32.le_iff_toNat_le.1 hc.2
  unfold Char.toLower
  refine dif_neg fun hupper => ?_
  have habove : 65 ≤ c.val.toNat := UInt32.le_iff_toNat_le.1 hupper.1
  omega

/-- A text that begins with a digit is neither signed nor one of the words. -/
theorem ofText?_of_digit {negative : Bool} {c : Char} {cs : List Char} (hc : c.isDigit = true) :
    ofText? (String.ofList ((if negative then ['-'] else []) ++ c :: cs)) =
      (decimalOf? (c :: cs)).map (·.toNumber negative) := by
  have hsign : Text.splitSign ((if negative then ['-'] else []) ++ c :: cs) =
      (negative, c :: cs) := by
    cases negative with
    | true => rfl
    | false =>
        show Text.splitSign (c :: cs) = _
        unfold Text.splitSign
        split
        · rename_i hminus
          rw [(List.cons.inj hminus).1] at hc
          cases hc
        · rename_i hplus
          rw [(List.cons.inj hplus).1] at hc
          cases hc
        · rfl
  have hword : ∀ x xs, x.isDigit = false →
      (String.ofList ((c :: cs).map Char.toLower) == String.ofList (x :: xs)) = false := by
    intro x xs hx
    rw [beq_eq_false_iff_ne]
    intro h
    have hhead := (List.cons.inj (String.ofList_injective h)).1
    rw [toLower_of_isDigit hc] at hhead
    rw [hhead, hx] at hc
    cases hc
  have hinf : (String.ofList ((c :: cs).map Char.toLower) == "inf") = false := hword 'i' _ rfl
  have hinfinity : (String.ofList ((c :: cs).map Char.toLower) == "infinity") = false :=
    hword 'i' _ rfl
  have hnan : (String.ofList ((c :: cs).map Char.toLower) == "nan") = false := hword 'n' _ rfl
  unfold ofText?
  rw [String.toList_ofList, hsign]
  dsimp only
  rw [hinf, hinfinity, hnan]
  rfl

variable {n : Number}

theorem text_eq (hfinite : n.isFinite = true) :
    n.text = if n.isZero then "0"
      else String.ofList ((if n.isNegative then ['-'] else []) ++ n.shortest.positional) := by
  cases n with
  | nan => cases hfinite
  | infinite negative => cases hfinite
  | finite negative m e canonical =>
      cases negative with
      | true =>
          have hsign : ∀ digits, String.ofList (['-'] ++ digits) = "-" ++ String.ofList digits :=
            fun _ => String.ofList_append
          show _ = if _ then "0" else String.ofList (['-'] ++ _)
          rw [hsign]
          rfl
      | false => rfl

/-- **The text of a finite number reads back as the number.** -/
theorem ofText?_text (hfinite : n.isFinite = true) (hzero : n.isZero = false) :
    ofText? n.text = some n := by
  obtain ⟨c, cs, hpositional, hdigit⟩ := n.shortest.exists_cons_positional
  have hshortest : n.shortest.toNumber n.isNegative = n := toNumber_shortest hfinite hzero
  have hplain : n.shortest.plain.toNumber n.isNegative = n :=
    (Decimal.toNumber_plain (hshortest.symm ▸ hfinite)).trans hshortest
  rw [text_eq hfinite, hzero, if_neg Bool.false_ne_true, hpositional, ofText?_of_digit hdigit,
    ← hpositional, decimalOf?_positional, Option.map_some, hplain]

theorem isBlank_of_mem_text (hfinite : n.isFinite = true) {c : Char} (hc : c ∈ n.text.toList) :
    Text.isBlank c = false := by
  rw [text_eq hfinite] at hc
  cases hzero : n.isZero with
  | true =>
      rw [hzero, if_pos rfl] at hc
      rw [List.mem_singleton.1 hc]
      rfl
  | false =>
      rw [hzero, if_neg Bool.false_ne_true, String.toList_ofList, List.mem_append] at hc
      rcases hc with hsign | hdigit
      · split at hsign
        · rw [List.mem_singleton.1 hsign]
          rfl
        · exact absurd hsign List.not_mem_nil
      · exact Decimal.isBlank_of_mem_positional hdigit

end Number

end Conform
