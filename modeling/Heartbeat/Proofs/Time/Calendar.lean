import Mathlib.Order.Monotone.Basic
import Mathlib.Tactic.IntervalCases
import Mathlib.Tactic.NormNum
import Heartbeat.Time.Instant

/-! Counting days is lossless: the date of a day is a date of the calendar, and counts back to the
same day. Years are placed inside an era by `shiftedDay`, which is monotone, so that it is enough to
look at the first and the last day of each of the 400 years. -/
namespace Heartbeat.Time.Date

/-- The day of an era on which a year that is counted from March begins. -/
def yearStart (year : Nat) : Nat := 365 * year + year / 4 - year / 100

/-- How many days a year of an era has that is counted from March: the leap day is its last. -/
def yearLength (year : Nat) : Nat :=
  if (year + 1) % 4 = 0 ∧ ((year + 1) % 100 ≠ 0 ∨ (year + 1) % 400 = 0) then 366 else 365

/-- The day of an era without the leap days before it, so that all years have 365 days. -/
def shiftedDay (day : Nat) : Nat := day - day / 1460 + day / 36524 - day / 146096

private theorem shiftedDay_mono : Monotone shiftedDay :=
  monotone_nat_of_le_succ fun day => by simp only [shiftedDay]; omega

private theorem shiftedDay_at_bounds : ∀ year < 400,
    (0 < year → shiftedDay (yearStart year - 1) < 365 * year) ∧
      (year < 399 → 365 * (year + 1) ≤ shiftedDay (yearStart year + yearLength year)) := by
  decide +kernel

private theorem lastYear_ends : yearStart 399 + yearLength 399 = 146097 := by decide

/-- The year of era that a day is given is the year between whose bounds the day lies. -/
theorem year_bounds {day : Nat} (year : Nat) (within : day < 146097) (eq : year = shiftedDay day / 365) :
    year < 400 ∧ yearStart year ≤ day ∧ day < yearStart year + yearLength year := by
  have inEra : shiftedDay day ≤ shiftedDay 146096 := shiftedDay_mono (by omega)
  have top : shiftedDay 146096 = 145999 := by decide
  have small : year < 400 := by omega
  obtain ⟨before, after⟩ := shiftedDay_at_bounds year small
  refine ⟨small, ?_, ?_⟩
  · by_contra early
    have positive : 0 < year := by
      rcases Nat.eq_zero_or_pos year with rfl | positive
      · exact absurd (Nat.zero_le day) early
      · exact positive
    have := shiftedDay_mono (show day ≤ yearStart year - 1 by omega)
    have := before positive
    omega
  · by_contra late
    rcases Nat.lt_or_ge year 399 with short | long
    · have := shiftedDay_mono (show yearStart year + yearLength year ≤ day by omega)
      have := after short
      omega
    · have last : year = 399 := by omega
      subst last
      have := lastYear_ends
      omega

/-- The month counted from March, of a day of the year. -/
def monthFromMarch (dayOfYear : Nat) : Nat := (5 * dayOfYear + 2) / 153

/-- The day of the year on which a month counted from March begins. -/
def monthStart (month : Nat) : Nat := (153 * month + 2) / 5

private theorem lt_366 {year dayOfYear : Nat} (short : dayOfYear < yearLength year) :
    dayOfYear < 366 := by
  have : yearLength year ≤ 366 := by unfold yearLength; split <;> omega
  omega

private theorem month_bounds {dayOfYear : Nat} (within : dayOfYear < 366) :
    monthFromMarch dayOfYear < 12 ∧ monthStart (monthFromMarch dayOfYear) ≤ dayOfYear := by
  simp only [monthFromMarch, monthStart]
  omega

/-- The date of a day of a year that is counted from March, in an era of 400 years. -/
def ofParts (era : Int) (year dayOfYear : Nat) : Date :=
  let month := monthFromMarch dayOfYear
  { year := year + era * 400 + if month < 10 then 0 else 1
    month := if month < 10 then month + 3 else month - 9
    day := dayOfYear - monthStart month + 1 }

/-- Every day is a day of a year of an era, and its date is the date of these parts. -/
theorem exists_parts (day : Int) : ∃ (era : Int) (year dayOfYear : Nat),
    year < 400 ∧ dayOfYear < yearLength year ∧
      day = era * 146097 + (yearStart year + dayOfYear : Nat) - 719468 ∧
      ofEpochDay day = ofParts era year dayOfYear := by
  let era := (day + 719468) / 146097
  let dayOfEra := ((day + 719468) % 146097).toNat
  let year := shiftedDay dayOfEra / 365
  have within : dayOfEra < 146097 := by omega
  obtain ⟨small, lower, upper⟩ := year_bounds year within rfl
  have short : dayOfEra - yearStart year < yearLength year := by omega
  obtain ⟨months, -⟩ := month_bounds (lt_366 short)
  refine ⟨era, year, dayOfEra - yearStart year, small, short, by omega, ?_⟩
  have month : (if (if monthFromMarch (dayOfEra - yearStart year) < 10
      then monthFromMarch (dayOfEra - yearStart year) + 3
      else monthFromMarch (dayOfEra - yearStart year) - 9) ≤ 2 then (1 : Int) else 0) =
      if monthFromMarch (dayOfEra - yearStart year) < 10 then 0 else 1 := by
    split <;> split <;> first | rfl | omega
  simp only [ofParts, ← month]
  rfl

/-- Counting back from the date of these parts gives the day they were taken from. -/
theorem toEpochDay_ofParts {year dayOfYear : Nat} (era : Int) (small : year < 400)
    (short : dayOfYear < yearLength year) :
    (ofParts era year dayOfYear).toEpochDay =
      era * 146097 + (yearStart year + dayOfYear : Nat) - 719468 := by
  have inYear := lt_366 short
  obtain ⟨months, begins⟩ := month_bounds inYear
  unfold ofParts toEpochDay
  generalize monthFromMarch dayOfYear = month at *
  simp only [monthStart, yearStart] at *
  by_cases early : month < 10
  · have late : ¬ month + 3 ≤ 2 := by omega
    simp only [early, late, ↓reduceIte]
    omega
  · have late : month - 9 ≤ 2 := by omega
    simp only [early, late, ↓reduceIte]
    omega

/-- **The calendar counts without loss**: the date of a day is that many days from 1970-01-01. -/
theorem toEpochDay_ofEpochDay (day : Int) : (ofEpochDay day).toEpochDay = day := by
  obtain ⟨era, year, dayOfYear, small, short, count, date⟩ := exists_parts day
  rw [date, toEpochDay_ofParts era small short, count]

private theorem leap_of_last_day (era : Int) {year dayOfYear : Nat}
    (short : dayOfYear < yearLength year) (last : 365 ≤ dayOfYear) :
    isLeapYear (year + era * 400 + 1) = true := by
  have leap : (year + 1) % 4 = 0 ∧ ((year + 1) % 100 ≠ 0 ∨ (year + 1) % 400 = 0) := by
    by_contra common
    simp only [yearLength, common, ↓reduceIte] at short
    omega
  simp only [isLeapYear, Bool.and_eq_true, Bool.or_eq_true, beq_iff_eq, bne_iff_ne]
  omega

private theorem day_fits_month (era : Int) {year dayOfYear : Nat}
    (short : dayOfYear < yearLength year) :
    let date := ofParts era year dayOfYear
    1 ≤ date.month ∧ date.month ≤ 12 ∧ 1 ≤ date.day ∧
      date.day ≤ daysInMonth date.year date.month := by
  have inYear := lt_366 short
  obtain ⟨months, begins⟩ := month_bounds inYear
  have ends : 5 * dayOfYear + 2 < 153 * (monthFromMarch dayOfYear + 1) := by
    simp only [monthFromMarch]; omega
  have leap := leap_of_last_day era short
  unfold ofParts
  generalize monthFromMarch dayOfYear = month at *
  simp only [monthStart] at *
  refine ⟨by split <;> omega, by split <;> omega, by omega, ?_⟩
  -- one month at a time: only February asks for the year
  interval_cases month <;> simp only [daysInMonth] <;> norm_num <;> first
    | omega
    | (split
       · omega
       · rename_i common
         have : ¬ 365 ≤ dayOfYear := fun last => common (leap last)
         omega)

/-- The days that have instants lie in the years of the calendar. -/
theorem year_of_day_within {day : Int} (first : firstDay ≤ day) (last : day ≤ lastDay) :
    firstYear ≤ (ofEpochDay day).year ∧ (ofEpochDay day).year ≤ lastYear := by
  have early : firstDay = -656 * 146097 + 93808 - 719468 := by decide
  have late : lastDay = 655 * 146097 + 52169 - 719468 := by decide
  obtain ⟨era, year, dayOfYear, small, short, count, date⟩ := exists_parts day
  have inYear := lt_366 short
  rw [date]
  clear date
  simp only [ofParts, firstYear, lastYear, monthFromMarch, yearStart] at *
  -- January and February of a year count to the one before, so the last year ends with year 142
  have march : 142 ≤ year → 51864 ≤ 365 * year + year / 4 - year / 100 := by omega
  by_cases inFall : (5 * dayOfYear + 2) / 153 < 10
  · simp only [inFall, ↓reduceIte]
    omega
  · simp only [inFall, ↓reduceIte]
    rcases lt_trichotomy era 655 with before | rfl | after <;> omega

/-- The date of a day is a date of the calendar, from its first year to its last. -/
theorem isValid_ofEpochDay {day : Int} (first : firstDay ≤ day) (last : day ≤ lastDay) :
    (ofEpochDay day).isValid = true := by
  obtain ⟨lower, upper⟩ := year_of_day_within first last
  obtain ⟨era, year, dayOfYear, small, short, count, date⟩ := exists_parts day
  rw [date] at lower upper ⊢
  obtain ⟨month, months, begins, ends⟩ := day_fits_month era short
  simp [isValid, lower, upper, month, months, begins, ends]

end Heartbeat.Time.Date
