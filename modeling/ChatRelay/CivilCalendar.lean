import Mathlib.Algebra.Group.Int.Defs

namespace ChatRelay

/-!
# The civil calendar

Days and dates of the proleptic Gregorian calendar, counted from the first day
of 1970.  A year is taken to begin in March, so that the leap day is its last
day: 400 years, a century, four years and a year are then each a whole number
of days but for the last one of its kind, and the months follow one pattern.
-/

/-- A date; the months are numbered from 1. -/
@[ext] structure CivilDate where
  year : Int
  month : Int
  day : Int
  deriving Repr, DecidableEq

namespace CivilDate

/-- The number of the first of March in year 0, before the epoch. -/
def epochFromMarch : Int :=
  719468

/-- The days before the March in which a year begins. -/
def yearStart (year : Int) : Int :=
  365 * year + year / 4 - year / 100 + year / 400

/-- The days before a month, in a year that begins with month 0 in March. -/
def monthStart (month : Int) : Int :=
  (153 * month + 2) / 5

/-- The number of a date; a day beyond the end of its month counts on. -/
def toDays (date : CivilDate) : Int :=
  if date.month ≤ 2 then
    yearStart (date.year - 1) + monthStart (date.month + 9) +
      (date.day - 1) - epochFromMarch
  else
    yearStart date.year + monthStart (date.month - 3) +
      (date.day - 1) - epochFromMarch

/-- The year of a day, and the day in a year that begins in March. -/
def yearOfDay (day : Int) : Int × Int :=
  let dayOfEra := day % 146097
  let century := min (dayOfEra / 36524) 3
  let dayOfCentury := dayOfEra - century * 36524
  let dayOfCycle := dayOfCentury % 1461
  let yearOfCycle := min (dayOfCycle / 365) 3
  (400 * (day / 146097) + 100 * century + 4 * (dayOfCentury / 1461) +
      yearOfCycle,
    dayOfCycle - yearOfCycle * 365)

/-- The month that a day of the year falls into, from 0 for March. -/
def monthOfDay (dayOfYear : Int) : Int :=
  (5 * dayOfYear + 2) / 153

/-- The date of a day. -/
def ofDays (days : Int) : CivilDate :=
  let (year, dayOfYear) := yearOfDay (days + epochFromMarch)
  let month := monthOfDay dayOfYear
  let day := dayOfYear - monthStart month + 1
  if month < 10 then
    ⟨year, month + 3, day⟩
  else
    ⟨year + 1, month - 9, day⟩

/-- The days before a year, given by its century and its cycle of four years. -/
theorem yearStart_eq
    (era : Int)
    {century cycle year : Int}
    (inEra : 0 ≤ century ∧ century ≤ 3)
    (inCentury : 0 ≤ cycle ∧ cycle ≤ 24)
    (inCycle : 0 ≤ year ∧ year ≤ 3) :
    yearStart (400 * era + 100 * century + 4 * cycle + year) =
      146097 * era + 36524 * century + 1461 * cycle + 365 * year := by
  have fours :
      (400 * era + 100 * century + 4 * cycle + year) / 4 =
        100 * era + 25 * century + cycle := by
    omega
  have hundreds :
      (400 * era + 100 * century + 4 * cycle + year) / 100 =
        4 * era + century := by
    omega
  have eras :
      (400 * era + 100 * century + 4 * cycle + year) / 400 = era := by
    omega
  unfold yearStart
  rw [fours, hundreds, eras]
  omega

/-- A day is the day of its year after those of the years before. -/
theorem yearStart_yearOfDay
    (day : Int) :
    yearStart (yearOfDay day).1 + (yearOfDay day).2 = day := by
  unfold yearOfDay
  dsimp only
  rw [yearStart_eq] <;> omega

/-- A year has at most 366 days. -/
theorem yearOfDay_bounds
    (day : Int) :
    0 ≤ (yearOfDay day).2 ∧ (yearOfDay day).2 ≤ 365 := by
  unfold yearOfDay
  dsimp only
  omega

/-- The month of a day, and the day in it. -/
theorem monthOfDay_bounds
    {dayOfYear : Int}
    (nonneg : 0 ≤ dayOfYear)
    (inYear : dayOfYear ≤ 365) :
    0 ≤ monthOfDay dayOfYear ∧ monthOfDay dayOfYear ≤ 11 ∧
      0 ≤ dayOfYear - monthStart (monthOfDay dayOfYear) ∧
      dayOfYear - monthStart (monthOfDay dayOfYear) ≤ 30 := by
  unfold monthStart monthOfDay
  omega

/-- The month and the day of the month of a date that a day has. -/
theorem ofDays_bounds
    (days : Int) :
    1 ≤ (ofDays days).month ∧ (ofDays days).month ≤ 12 ∧
      1 ≤ (ofDays days).day ∧ (ofDays days).day ≤ 31 := by
  have inYear := yearOfDay_bounds (days + epochFromMarch)
  have inMonth := monthOfDay_bounds inYear.1 inYear.2
  unfold ofDays
  dsimp only
  split <;> dsimp only <;> omega

/-- The number of the date of a day is the day. -/
theorem toDays_ofDays
    (days : Int) :
    (ofDays days).toDays = days := by
  have sum := yearStart_yearOfDay (days + epochFromMarch)
  have inYear := yearOfDay_bounds (days + epochFromMarch)
  have inMonth := monthOfDay_bounds inYear.1 inYear.2
  unfold ofDays
  dsimp only
  split
  · rename_i march
    have month :
        ¬ monthOfDay (yearOfDay (days + epochFromMarch)).2 + 3 ≤ 2 := by
      omega
    simp only [toDays, if_neg month, add_sub_cancel_right]
    omega
  · rename_i january
    have month :
        monthOfDay (yearOfDay (days + epochFromMarch)).2 - 9 ≤ 2 := by
      omega
    simp only [toDays, if_pos month, add_sub_cancel_right, sub_add_cancel]
    omega

/-- Within three centuries of the epoch a year has four digits. -/
theorem ofDays_year
    {days : Int}
    (after : -109000 ≤ days)
    (before : days ≤ 109000) :
    1000 ≤ (ofDays days).year ∧ (ofDays days).year ≤ 9999 := by
  have sum := yearStart_yearOfDay (days + epochFromMarch)
  have inYear := yearOfDay_bounds (days + epochFromMarch)
  unfold yearStart epochFromMarch at sum
  unfold ofDays
  dsimp only
  split <;> dsimp only [epochFromMarch] at * <;> omega

end CivilDate

end ChatRelay
