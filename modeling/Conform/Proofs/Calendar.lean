/-
Day numbers and dates.

The date of a day is one the calendar has, and it falls on that day.  The year, which begins in
March here, is found by a division that corrects for the leap days first, and the whole argument
rests on where it lands: in a run of four years that ends with a leap day there may be one day more,
and it is the last.
-/
import Conform.Instant.Calendar

namespace Conform.CalendarDate

/-! ### Within an era -/

/-- The year of a day of an era. -/
def yearOfEra (dayOfEra : Int) : Int :=
  (dayOfEra - dayOfEra / 1460 + dayOfEra / 36524 - dayOfEra / 146096) / 365

/-- The day of its year, counted from the first of March. -/
def dayOfYear (dayOfEra : Int) : Int :=
  dayOfEra - (365 * yearOfEra dayOfEra + yearOfEra dayOfEra / 4 - yearOfEra dayOfEra / 100)

/-- The month of a day of the year, counted from March. -/
def monthOf (dayOfYear : Int) : Int :=
  (5 * dayOfYear + 2) / 153

/-- The days of the year before a month. -/
def daysBefore (month : Int) : Int :=
  (153 * month + 2) / 5

variable {day : Int}

/-- The full centuries that are over are those without a leap day at their end. -/
theorem centuries_cases (hlow : 0 ≤ day) (hhigh : day < 146097) :
    day / 36524 - day / 146096 = 0 ∨ day / 36524 - day / 146096 = 1 ∨
      day / 36524 - day / 146096 = 2 ∨ day / 36524 - day / 146096 = 3 := by
  omega

theorem yearOfEra_bounds (hlow : 0 ≤ day) (hhigh : day < 146097) :
    0 ≤ yearOfEra day ∧ yearOfEra day ≤ 399 ∧
      yearOfEra day / 100 = day / 36524 - day / 146096 := by
  unfold yearOfEra
  refine ⟨by omega, by omega, ?_⟩
  rcases centuries_cases hlow hhigh with h | h | h | h <;> omega

/-- Against runs of 1460 days, a day that is the leap day of such a run counts to the year before
the next one. -/
theorem yearOfEra_cases (hlow : 0 ≤ day) (hhigh : day < 146097) :
    yearOfEra day = 4 * (day / 1460) - 1 ∨ yearOfEra day = 4 * (day / 1460) ∨
      yearOfEra day = 4 * (day / 1460) + 1 ∨ yearOfEra day = 4 * (day / 1460) + 2 ∨
      yearOfEra day = 4 * (day / 1460) + 3 := by
  unfold yearOfEra
  omega

/-- A year has at most 366 days, and if it has as many, the year to whose February the last one
belongs is a leap year. -/
theorem dayOfYear_bounds (hlow : 0 ≤ day) (hhigh : day < 146097) :
    0 ≤ dayOfYear day ∧ dayOfYear day ≤ 365 ∧
      (dayOfYear day = 365 → (yearOfEra day + 1) % 4 = 0 ∧
        ((yearOfEra day + 1) % 100 ≠ 0 ∨ (yearOfEra day + 1) % 400 = 0)) := by
  obtain ⟨-, -, hcentury⟩ := yearOfEra_bounds hlow hhigh
  have hyear : yearOfEra day =
      (day - day / 1460 + day / 36524 - day / 146096) / 365 := rfl
  unfold dayOfYear
  rw [hcentury]
  refine ⟨?_, ?_, ?_⟩
  · rcases yearOfEra_cases hlow hhigh with h | h | h | h | h <;> omega
  · rcases yearOfEra_cases hlow hhigh with h | h | h | h | h <;> omega
  -- Only here it matters which centuries end with a leap day, so only here they are told apart.
  · rcases centuries_cases hlow hhigh with hc | hc | hc | hc <;>
      rcases yearOfEra_cases hlow hhigh with h | h | h | h | h <;> omega

/-! ### Dates -/

/-- The date of a day of a month, the months counted from March and the years from those of an era
before it. -/
def ofMonth (era year month : Int) (day : Nat) : CalendarDate :=
  if month < 10 then ⟨year + era * 400, month.toNat + 3, day⟩
  else ⟨year + era * 400 + 1, month.toNat - 9, day⟩

theorem ofDays_eq (days : Int) :
    let era := (days + 719468) / 146097
    let dayOfEra := (days + 719468) % 146097
    let month := monthOf (dayOfYear dayOfEra)
    ofDays days = ofMonth era (yearOfEra dayOfEra) month
      (dayOfYear dayOfEra - daysBefore month + 1).toNat :=
  rfl

variable {era year month : Int}

theorem toDays_ofMonth (hyear : 0 ≤ year ∧ year ≤ 399) (hmonth : 0 ≤ month ∧ month ≤ 11)
    (day : Nat) : (ofMonth era year month day).toDays =
      era * 146097 + (year * 365 + year / 4 - year / 100 + (daysBefore month + day - 1)) -
        719468 := by
  have hera : (year + era * 400) / 400 = era := by omega
  have hofEra : (year + era * 400) % 400 = year := by omega
  unfold ofMonth toDays daysBefore
  split
  · have hshifted : ((month.toNat + 3 + 9) % 12 : Nat) = month := by omega
    dsimp only
    rw [if_neg (by omega), hera, hofEra, hshifted]
  · have hshifted : ((month.toNat - 9 + 9) % 12 : Nat) = month := by omega
    dsimp only
    rw [if_pos (by omega), Int.add_sub_cancel, hera, hofEra, hshifted]

theorem monthOf_bounds {day : Int} (hlow : 0 ≤ day) (hhigh : day ≤ 365) :
    0 ≤ monthOf day ∧ monthOf day ≤ 11 ∧ daysBefore (monthOf day) ≤ day := by
  unfold monthOf daysBefore
  omega

theorem toDays_ofDays (days : Int) : (ofDays days).toDays = days := by
  have hlow : 0 ≤ (days + 719468) % 146097 := Int.emod_nonneg _ (by decide)
  have hhigh : (days + 719468) % 146097 < 146097 := Int.emod_lt_of_pos _ (by decide)
  obtain ⟨hyearLow, hyearHigh, -⟩ := yearOfEra_bounds hlow hhigh
  obtain ⟨hdayLow, hdayHigh, -⟩ := dayOfYear_bounds hlow hhigh
  obtain ⟨hmonthLow, hmonthHigh, hbefore⟩ := monthOf_bounds hdayLow hdayHigh
  rw [ofDays_eq, toDays_ofMonth ⟨hyearLow, hyearHigh⟩ ⟨hmonthLow, hmonthHigh⟩,
    Int.toNat_of_nonneg (by omega)]
  have hday : (days + 719468) % 146097 = 365 * yearOfEra ((days + 719468) % 146097) +
      yearOfEra ((days + 719468) % 146097) / 4 - yearOfEra ((days + 719468) % 146097) / 100 +
        dayOfYear ((days + 719468) % 146097) := by
    unfold dayOfYear
    omega
  omega

theorem isValid_iff {date : CalendarDate} :
    date.isValid = true ↔ 1 ≤ date.month ∧ date.month ≤ 12 ∧ 1 ≤ date.day ∧
      date.day ≤ daysInMonth date.year date.month := by
  simp only [isValid, Bool.and_eq_true, decide_eq_true_eq, and_assoc]

theorem isLeapYear_iff {year : Int} :
    isLeapYear year = true ↔ year % 4 = 0 ∧ (year % 100 ≠ 0 ∨ year % 400 = 0) := by
  simp only [isLeapYear, Bool.and_eq_true, Bool.or_eq_true, beq_iff_eq, bne_iff_ne]

/-- A day that falls into a month is one of it.  February is the last one, and has its 29th day in
a leap year only. -/
theorem isValid_ofMonth {day : Int} (hlow : 0 ≤ day) (hhigh : day ≤ 365)
    (hleap : day = 365 → isLeapYear (year + era * 400 + 1) = true) :
    (ofMonth era year (monthOf day) (day - daysBefore (monthOf day) + 1).toNat).isValid = true := by
  obtain ⟨hmonthLow, hmonthHigh, hbefore⟩ := monthOf_bounds hlow hhigh
  have hmonth : monthOf day = (5 * day + 2) / 153 := rfl
  have hdays : daysBefore (monthOf day) = (153 * monthOf day + 2) / 5 := rfl
  generalize monthOf day = month at *
  generalize daysBefore month = before at *
  rw [isValid_iff]
  unfold ofMonth
  -- Years are counted from March on, so January and February belong to the next one.
  by_cases hfirst : month < 10
  · rw [if_pos hfirst]
    dsimp only
    refine ⟨by omega, by omega, by omega, ?_⟩
    unfold daysInMonth
    rw [if_neg (by omega)]
    split <;> omega
  · rw [if_neg hfirst]
    dsimp only
    refine ⟨by omega, by omega, by omega, ?_⟩
    unfold daysInMonth
    by_cases hfebruary : month = 11
    · rw [if_pos (by omega)]
      split
      · omega
      · rename_i hcommon
        have hlast : day ≠ 365 := fun h => hcommon (hleap h)
        omega
    · rw [if_neg (by omega), if_neg (by omega)]
      omega

/-- The date of a day is one the calendar has. -/
theorem isValid_ofDays (days : Int) : (ofDays days).isValid = true := by
  have hlow : 0 ≤ (days + 719468) % 146097 := Int.emod_nonneg _ (by decide)
  have hhigh : (days + 719468) % 146097 < 146097 := Int.emod_lt_of_pos _ (by decide)
  obtain ⟨hdayLow, hdayHigh, hleap⟩ := dayOfYear_bounds hlow hhigh
  rw [ofDays_eq]
  refine isValid_ofMonth hdayLow hdayHigh fun hlast => isLeapYear_iff.2 ?_
  have hyear := hleap hlast
  omega

end Conform.CalendarDate
