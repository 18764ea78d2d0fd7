/-
An instant reads back from its text, if its year has four digits.

The text leaves out what is less than a millisecond, so it reads back as the instant without that,
which has the same text.  A year before 0 or after 9999 is written with a sign.  An RFC 3339 time
has no such year, and a date that has one must not be followed by a time, so then nothing is read.
-/
import Conform.Instant.Text
import Conform.Proofs.Calendar
import Conform.Proofs.Digits
import Mathlib.Data.List.TakeWhile

namespace Conform.Instant

open Text (AllDigits digitsValue)
open scoped Number

/-! ### Padded numbers -/

section Padded

variable {width n : Nat} {rest : List Char}

theorem allDigits_padded (width n : Nat) : AllDigits (padded width n) :=
  (Text.allDigits_zeros _).append (Text.allDigits_toDigits n)

theorem digitsValue_padded : digitsValue 0 (padded width n) = n := by
  unfold padded
  rw [Text.digitsValue_zeros_append, Text.digitsValue_toDigits]

theorem length_padded (hwidth : 0 < width) (h : n < 10 ^ width) :
    (padded width n).length = width := by
  have hdigits : (Nat.toDigits 10 n).length ≤ width :=
    (Nat.length_toDigits_le_iff (by decide) hwidth).2 h
  unfold padded
  rw [List.length_append, List.length_replicate]
  omega

theorem padded_ne_nil : padded width n ≠ [] :=
  List.append_ne_nil_of_right_ne_nil _ Nat.toDigits_ne_nil

theorem isEmpty_padded : (padded width n).isEmpty = false :=
  List.isEmpty_eq_false_iff.2 padded_ne_nil

/-- A number is read in the width it was padded to. -/
theorem readDigits?_padded (hwidth : 0 < width) (h : n < 10 ^ width) :
    readDigits? width (padded width n ++ rest) = some (n, rest) := by
  have hlength := length_padded hwidth h
  unfold readDigits?
  rw [List.take_left' hlength, List.drop_left' hlength]
  dsimp only
  rw [if_pos ⟨hlength, (allDigits_padded width n).all⟩, digitsValue_padded]

theorem readNumber?_padded (hwidth : 0 < width) (h : n < 10 ^ width) :
    readNumber? width (padded width n ++ rest) = some (n, rest) := by
  have hlength := length_padded hwidth h
  have hdigits := allDigits_padded width n
  unfold readNumber?
  rw [hdigits.dropBlanks padded_ne_nil]
  dsimp only
  rw [List.take_left' hlength, List.takeWhile_eq_self_iff.2 hdigits, isEmpty_padded,
    if_neg Bool.false_ne_true, digitsValue_padded, hlength, List.drop_left' hlength]

theorem skip?_self (c : Char) : skip? c (c :: rest) = some rest :=
  if_pos rfl

end Padded

/-! ### The parts of the text -/

variable {t : Instant}

/-- The date of an instant in UTC. -/
def date (t : Instant) : CalendarDate :=
  CalendarDate.ofDays (t.seconds / 86400)

/-- The seconds of its day that are over. -/
def time (t : Instant) : Nat :=
  (t.seconds % 86400).toNat

/-- The text of the time of day. -/
def clock (t : Instant) : List Char :=
  padded 2 (t.time / 3600) ++ ':' :: (padded 2 (t.time / 60 % 60) ++ ':' ::
    (padded 2 (t.time % 60 + t.nanos / 1000000000) ++ '.' ::
      (padded 3 (t.nanos % 1000000000 / 1000000) ++ ['Z'])))

theorem text_eq (t : Instant) :
    t.text = String.ofList (yearText t.date.year ++ '-' :: (padded 2 t.date.month ++ '-' ::
      (padded 2 t.date.day ++ 'T' :: t.clock))) := by
  unfold text clock
  simp only [List.append_assoc, List.cons_append]
  rfl

/-- The instant without what is less than a millisecond. -/
def truncated (t : Instant) : Instant where
  seconds := t.seconds
  nanos := t.nanos / 1000000 * 1000000
  valid := by
    obtain ⟨hfirst, hlast, hnanos⟩ := t.valid
    exact ⟨hfirst, hlast, by omega⟩

theorem text_truncated (t : Instant) : t.truncated.text = t.text := by
  have hsecond : t.nanos / 1000000 * 1000000 / 1000000000 = t.nanos / 1000000000 := by omega
  have hmillis : t.nanos / 1000000 * 1000000 % 1000000000 / 1000000 =
      t.nanos % 1000000000 / 1000000 := by omega
  unfold text truncated
  dsimp only
  rw [hsecond, hmillis]

/-! ### Reading it -/

theorem time_lt (t : Instant) : t.time < 86400 := by
  unfold time
  omega

/-- The second is 60 exactly in a leap second. -/
theorem second_le (t : Instant) : t.time % 60 + t.nanos / 1000000000 ≤ 60 := by
  obtain ⟨-, -, hnanos⟩ := t.valid
  unfold time
  omega

theorem isValid_date (t : Instant) : t.date.isValid = true :=
  CalendarDate.isValid_ofDays _

theorem date_lt (t : Instant) : t.date.month < 100 ∧ t.date.day < 100 := by
  have hdays : CalendarDate.daysInMonth t.date.year t.date.month ≤ 31 := by
    unfold CalendarDate.daysInMonth
    split
    · split <;> omega
    · split <;> omega
  obtain ⟨-, hmonth, -, hday⟩ := CalendarDate.isValid_iff.1 t.isValid_date
  omega

theorem ofUnix?_eq {seconds : Int} {nanos : Nat} (hseconds : seconds = t.seconds)
    (hnanos : nanos = t.nanos) : ofUnix? seconds nanos = some t := by
  subst hseconds hnanos
  exact dif_pos t.valid

/-- The date and the time of day are those of the instant. -/
theorem ofLocal?_date (t : Instant) :
    ofLocal? t.date (t.time / 3600) (t.time / 60 % 60) (t.time % 60 + t.nanos / 1000000000)
      (t.nanos % 1000000000 / 1000000 * 1000000) 0 = some t.truncated := by
  obtain ⟨-, -, hnanos⟩ := t.valid
  have htime := t.time_lt
  have hseconds : t.seconds = t.seconds / 86400 * 86400 + t.time := by
    unfold time
    omega
  have hlast : t.seconds % 60 = t.time % 60 := by omega
  have hdays : t.date.toDays = t.seconds / 86400 := CalendarDate.toDays_ofDays _
  unfold ofLocal?
  rw [if_pos ⟨t.isValid_date, by omega, by omega, t.second_le⟩, hdays]
  -- A second 60 is read as the one before it with a whole second of nanoseconds more.
  by_cases hleap : t.time % 60 + t.nanos / 1000000000 = 60
  · rw [if_pos hleap]
    refine ofUnix?_eq ?_ ?_
    · show _ = t.seconds
      omega
    · show _ = t.nanos / 1000000 * 1000000
      omega
  · rw [if_neg hleap]
    refine ofUnix?_eq ?_ ?_
    · show _ = t.seconds
      omega
    · show _ = t.nanos / 1000000 * 1000000
      omega

theorem readFraction?_millis {n : Nat} (h : n < 1000) (rest : List Char)
    (hrest : ∀ c ∈ rest.head?, c.isDigit = false) :
    readFraction? ('.' :: (padded 3 n ++ rest)) = some (n * 1000000, rest) := by
  have hdigits := allDigits_padded 3 n
  have hlength : (padded 3 n).length = 3 := length_padded (by decide) h
  rw [readFraction?]
  dsimp only
  rw [hdigits.takeWhile hrest, hdigits.dropWhile hrest, isEmpty_padded,
    if_neg Bool.false_ne_true, List.take_of_length_le (by omega), digitsValue_padded, hlength]

/-- The time of day is read back. -/
theorem ofRfc3339?_text (h : 0 ≤ t.date.year ∧ t.date.year ≤ 9999) :
    ofRfc3339? t.text.toList = some t.truncated := by
  obtain ⟨hmonth, hday⟩ := t.date_lt
  have htime := t.time_lt
  have hsecond := t.second_le
  have hyear : yearText t.date.year = padded 4 t.date.year.toNat := if_pos h
  have hback : ((t.date.year.toNat : Nat) : Int) = t.date.year := Int.toNat_of_nonneg h.1
  have hend : ∀ c ∈ ['Z'].head?, c.isDigit = false := by
    rintro c ⟨⟩
    rfl
  have hfraction : readFraction? ('.' :: (padded 3 (t.nanos % 1000000000 / 1000000) ++ ['Z'])) =
      some (t.nanos % 1000000000 / 1000000 * 1000000, ['Z']) :=
    readFraction?_millis (by omega) _ hend
  have hoffset : readOffset? ['Z'] = some (0, []) := rfl
  have htwo : ∀ n, n < 100 → ∀ rest, readDigits? 2 (padded 2 n ++ rest) = some (n, rest) :=
    fun n hn rest => readDigits?_padded (by decide) hn
  have hfour : ∀ rest, readDigits? 4 (padded 4 t.date.year.toNat ++ rest) =
      some (t.date.year.toNat, rest) := fun rest => readDigits?_padded (by decide) (by omega)
  rw [text_eq, String.toList_ofList, hyear]
  unfold ofRfc3339? clock
  simp only [hfour, htwo _ hmonth, htwo _ hday, htwo (t.time / 3600) (by omega),
    htwo (t.time / 60 % 60) (by omega), htwo (t.time % 60 + t.nanos / 1000000000) (by omega),
    skip?_self, hfraction, hoffset, Option.bind_eq_bind, Option.bind_some, Option.orElse_eq_orElse,
    Option.orElse_some]
  rw [hback]
  exact ofLocal?_date t

/-- A year that is not written with four digits alone has a sign. -/
theorem exists_sign (h : ¬ (0 ≤ t.date.year ∧ t.date.year ≤ 9999)) :
    ∃ sign, (sign = '-' ∨ sign = '+') ∧
      yearText t.date.year = sign :: padded 4 t.date.year.natAbs := by
  refine ⟨if t.date.year < 0 then '-' else '+', ?_, if_neg h⟩
  split
  · exact Or.inl rfl
  · exact Or.inr rfl

/-- An RFC 3339 time has no year with a sign. -/
theorem ofRfc3339?_of_sign {sign : Char} {cs : List Char} (h : sign.isDigit = false) :
    ofRfc3339? (sign :: cs) = none := by
  have hyear : readDigits? 4 (sign :: cs) = none := by
    unfold readDigits?
    refine if_neg fun hdigits => ?_
    rw [List.take_succ_cons, List.all_cons, h] at hdigits
    exact Bool.false_ne_true hdigits.2
  unfold ofRfc3339?
  rw [hyear]
  rfl

/-- A year with a sign is read, whatever number of digits it has. -/
theorem readYear?_signed {sign : Char} (hsign : sign = '-' ∨ sign = '+') (n : Nat)
    {rest : List Char} (hrest : ∀ c ∈ rest.head?, c.isDigit = false) :
    ∃ year, readYear? (sign :: (padded 4 n ++ rest)) = some (year, rest) := by
  have hdigits := allDigits_padded 4 n
  have hblank : Text.dropBlanks (sign :: (padded 4 n ++ rest)) =
      sign :: (padded 4 n ++ rest) := by
    refine Text.dropBlanks_eq_self ?_
    rintro c ⟨⟩
    rcases hsign with rfl | rfl <;> rfl
  have hsigned : ∀ sign : Int,
      (if ((padded 4 n ++ rest).takeWhile Char.isDigit).isEmpty then none
        else some (sign * digitsValue 0 ((padded 4 n ++ rest).takeWhile Char.isDigit),
          (padded 4 n ++ rest).dropWhile Char.isDigit)) = some (sign * n, rest) := by
    intro sign
    rw [hdigits.takeWhile hrest, hdigits.dropWhile hrest, isEmpty_padded,
      if_neg Bool.false_ne_true, digitsValue_padded]
  unfold readYear?
  rw [hblank]
  rcases hsign with rfl | rfl
  · exact ⟨_, hsigned (-1)⟩
  · exact ⟨_, hsigned 1⟩

/-- A date with a time after it is not read, in the same year. -/
theorem ofDate?_of_sign {sign : Char} (hsign : sign = '-' ∨ sign = '+') :
    ofDate? (sign :: (padded 4 t.date.year.natAbs ++ '-' :: (padded 2 t.date.month ++ '-' ::
      (padded 2 t.date.day ++ 'T' :: t.clock)))) = none := by
  obtain ⟨hmonth, hday⟩ := t.date_lt
  have hdash : ∀ c ∈ ('-' :: (padded 2 t.date.month ++ '-' ::
      (padded 2 t.date.day ++ 'T' :: t.clock))).head?, c.isDigit = false := by
    rintro c ⟨⟩
    rfl
  obtain ⟨year, hyear⟩ := readYear?_signed hsign t.date.year.natAbs hdash
  have htwo : ∀ n, n < 100 → ∀ rest, readNumber? 2 (padded 2 n ++ rest) = some (n, rest) :=
    fun n hn rest => readNumber?_padded (by decide) hn
  unfold ofDate?
  simp only [hyear, htwo _ hmonth, htwo _ hday, skip?_self, Option.bind_eq_bind, Option.bind_some]
  rfl

/-- **The text of an instant.**  It reads back as the instant to the millisecond, if the year has
four digits, and else it is not read at all. -/
theorem ofText?_text (t : Instant) :
    ofText? t.text.toList =
      if 0 ≤ t.date.year ∧ t.date.year ≤ 9999 then some t.truncated else none := by
  unfold ofText?
  split
  · rename_i hyear
    rw [ofRfc3339?_text hyear]
    rfl
  · rename_i hyear
    obtain ⟨sign, hsign, htext⟩ := exists_sign hyear
    have hdigit : sign.isDigit = false := by
      rcases hsign with rfl | rfl <;> rfl
    rw [text_eq, String.toList_ofList, htext, List.cons_append, ofRfc3339?_of_sign hdigit,
      ofDate?_of_sign hsign]
    rfl

/-- There are no blanks in the text. -/
theorem isBlank_of_mem_text {c : Char} (hc : c ∈ t.text.toList) : Text.isBlank c = false := by
  have hpadded : ∀ {width n}, c ∈ padded width n → Text.isBlank c = false :=
    fun h => Text.isBlank_of_isDigit (allDigits_padded _ _ c h)
  have hyear : c ∈ yearText t.date.year → Text.isBlank c = false := by
    intro h
    unfold yearText at h
    split at h
    · exact hpadded h
    · rcases List.mem_cons.1 h with rfl | h
      · split <;> rfl
      · exact hpadded h
  rw [text_eq, String.toList_ofList, clock] at hc
  simp only [List.mem_append, List.mem_cons, List.not_mem_nil, or_false] at hc
  rcases hc with h | rfl | h | rfl | h | rfl | h | rfl | h | rfl | h | rfl | h | rfl
  · exact hyear h
  all_goals first
    | rfl
    | exact hpadded h

end Conform.Instant
