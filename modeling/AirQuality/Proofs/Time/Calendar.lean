import AirQuality.Time.Calendar

/-!
# Dates and day numbers

A day number is found again from its date, so different days have different dates.  The date of a
day is one that the calendar has: its month is from 1 to 12, and a day is left out or put in only as
the leap years have it.  Years grow with the days.
-/

namespace AirQuality.Time

/-! ### Years of a cycle

A year starts in March here, so that a leap day is its last day.  The years of a cycle have 365
days, but for one more in every fourth year that does not end a century. -/

/-- The year of a cycle that a day of the cycle is in. -/
def yearOfDay (day : Int) : Int := (day - day / 1460 + day / 36524 - day / 146096) / 365

/-- The days of a cycle up to a year. -/
def daysBeforeYear (year : Int) : Int := 365 * year + year / 4 - year / 100

theorem yearOfDay_bounds {day : Int} (hfirst : 0 ≤ day) (hlast : day < daysPerCycle) :
    0 ≤ yearOfDay day ∧ yearOfDay day ≤ 399 := by
  unfold yearOfDay
  unfold daysPerCycle at hlast
  omega

/-- A day lies within the year it is in. -/
theorem day_within_year {day : Int} (hfirst : 0 ≤ day) (hlast : day < daysPerCycle) :
    daysBeforeYear (yearOfDay day) ≤ day ∧ day ≤ daysBeforeYear (yearOfDay day) + 365 := by
  obtain ⟨hlow, hhigh⟩ := yearOfDay_bounds hfirst hlast
  unfold daysPerCycle at hlast
  have hdef : yearOfDay day = (day - day / 1460 + day / 36524 - day / 146096) / 365 := rfl
  unfold daysBeforeYear
  generalize yearOfDay day = year at *
  -- In each century of days and each century of years what is left is linear.
  generalize hcentury : day / 36524 = century at *
  generalize hhundreds : year / 100 = hundreds at *
  have hcenturies : century = 0 ∨ century = 1 ∨ century = 2 ∨ century = 3 ∨ century = 4 := by
    omega
  have hyears : hundreds = 0 ∨ hundreds = 1 ∨ hundreds = 2 ∨ hundreds = 3 := by omega
  rcases hcenturies with rfl | rfl | rfl | rfl | rfl <;>
    rcases hyears with rfl | rfl | rfl | rfl <;> omega

/-- Only a leap year has a day more. -/
theorem leap_of_day_eq {day : Int} (hfirst : 0 ≤ day) (hlast : day < daysPerCycle)
    (hextra : day = daysBeforeYear (yearOfDay day) + 365) :
    (yearOfDay day + 1) % 4 = 0 ∧
      ((yearOfDay day + 1) % 100 ≠ 0 ∨ (yearOfDay day + 1) % 400 = 0) := by
  obtain ⟨hlow, hhigh⟩ := yearOfDay_bounds hfirst hlast
  unfold daysPerCycle at hlast
  have hdef : yearOfDay day = (day - day / 1460 + day / 36524 - day / 146096) / 365 := rfl
  unfold daysBeforeYear at hextra
  generalize yearOfDay day = year at *
  have hhundreds : year / 100 = 0 ∨ year / 100 = 1 ∨ year / 100 = 2 ∨ year / 100 = 3 := by omega
  -- The last day of a century is beyond the reckoning of the days in it.
  by_cases hcentury : year % 100 = 99
  · rcases hhundreds with hzero | hone | htwo | hthree <;> omega
  · have hdays : day / 36524 = year / 100 := by omega
    have hcycle : day / 146096 = 0 := by omega
    have hrest : year % 4 = 0 ∨ year % 4 = 1 ∨ year % 4 = 2 ∨ year % 4 = 3 := by omega
    rcases hrest with hzero | hone | htwo | hthree <;> omega

/-! ### Months of a year -/

/-- The month, counted from March, of a day of a year. -/
def monthOfDay (day : Int) : Int := (5 * day + 2) / 153

theorem monthOfDay_bounds {day : Int} (hfirst : 0 ≤ day) (hlast : day ≤ 365) :
    0 ≤ monthOfDay day ∧ monthOfDay day ≤ 11 ∧ 0 ≤ day - daysBeforeMonth (monthOfDay day) ∧
      day - daysBeforeMonth (monthOfDay day) ≤ 30 := by
  unfold monthOfDay daysBeforeMonth
  omega

/-! ### Dates -/

/-- The day of its cycle of a day number. -/
def dayOfCycle (number : Int) : Int := (number + daysToEpoch) % daysPerCycle

/-- The day of its year of a day number. -/
def dayOfYear (number : Int) : Int :=
  dayOfCycle number - daysBeforeYear (yearOfDay (dayOfCycle number))

theorem dayOfCycle_bounds (number : Int) :
    0 ≤ dayOfCycle number ∧ dayOfCycle number < daysPerCycle :=
  ⟨Int.emod_nonneg _ (by decide), Int.emod_lt_of_pos _ (by decide)⟩

theorem dayOfYear_bounds (number : Int) : 0 ≤ dayOfYear number ∧ dayOfYear number ≤ 365 := by
  obtain ⟨hfirst, hlast⟩ := dayOfCycle_bounds number
  obtain ⟨hlow, hhigh⟩ := day_within_year hfirst hlast
  unfold dayOfYear
  omega

/-- The parts of the date of a day number. -/
structure Date.IsOf (date : Date) (number : Int) : Prop where
  month : (date.month : Int) = (monthOfDay (dayOfYear number) + 2) % 12 + 1
  day : (date.day : Int) =
    dayOfYear number - daysBeforeMonth (monthOfDay (dayOfYear number)) + 1
  year : date.year = yearOfDay (dayOfCycle number) +
    (number + daysToEpoch) / daysPerCycle * 400 + (if date.month ≤ 2 then 1 else 0)

theorem Date.isOf_ofDayNumber (number : Int) : (Date.ofDayNumber number).IsOf number := by
  obtain ⟨hfirst, hlast⟩ := dayOfYear_bounds number
  obtain ⟨hmarch, hfebruary, hlow, hhigh⟩ := monthOfDay_bounds hfirst hlast
  have hmonth : ((Date.ofDayNumber number).month : Int) =
      (monthOfDay (dayOfYear number) + 2) % 12 + 1 := by
    change (((monthOfDay (dayOfYear number) + 2) % 12 + 1).toNat : Int) = _
    omega
  refine ⟨hmonth, ?_, ?_⟩
  · change ((dayOfYear number - daysBeforeMonth (monthOfDay (dayOfYear number)) + 1).toNat : Int)
      = _
    omega
  · have hearly : (monthOfDay (dayOfYear number) + 2) % 12 + 1 ≤ 2 ↔
        (Date.ofDayNumber number).month ≤ 2 := by omega
    change yearOfDay (dayOfCycle number) + (number + daysToEpoch) / daysPerCycle * 400 +
      (if (monthOfDay (dayOfYear number) + 2) % 12 + 1 ≤ 2 then 1 else 0) = _
    simp only [hearly]

variable {date : Date} {number : Int}

theorem Date.IsOf.month_bounds (hdate : date.IsOf number) : 1 ≤ date.month ∧ date.month ≤ 12 := by
  have hmonth := hdate.month
  omega

theorem Date.IsOf.day_bounds (hdate : date.IsOf number) : 1 ≤ date.day ∧ date.day ≤ 31 := by
  obtain ⟨hfirst, hlast⟩ := dayOfYear_bounds number
  obtain ⟨-, -, hlow, hhigh⟩ := monthOfDay_bounds hfirst hlast
  have hday := hdate.day
  omega

/-- January and February end the year that starts in March. -/
theorem Date.IsOf.month_le_two_iff (hdate : date.IsOf number) :
    date.month ≤ 2 ↔ 306 ≤ dayOfYear number := by
  obtain ⟨hfirst, hlast⟩ := dayOfYear_bounds number
  obtain ⟨hlow, hhigh, -, -⟩ := monthOfDay_bounds hfirst hlast
  have hmonth : date.month ≤ 2 ↔ 10 ≤ monthOfDay (dayOfYear number) := by
    have := hdate.month
    omega
  rw [hmonth]
  unfold monthOfDay
  omega

/-- The days from 1 January of year 1 to 31 December of year 9999 are in these years. -/
theorem Date.IsOf.year_bounds (hdate : date.IsOf number)
    (hfirst : Date.dayNumber ⟨1, 1, 1⟩ ≤ number)
    (hlast : number ≤ Date.dayNumber ⟨9999, 12, 31⟩) : 1 ≤ date.year ∧ date.year ≤ 9999 := by
  obtain ⟨hlow, hhigh⟩ := dayOfCycle_bounds number
  have hyears := yearOfDay_bounds hlow hhigh
  have hwhole : (number + daysToEpoch) / daysPerCycle * daysPerCycle + dayOfCycle number =
      number + daysToEpoch := Int.ediv_mul_add_emod _ _
  have hstart : Date.dayNumber ⟨1, 1, 1⟩ = -719162 := by decide
  have hend : Date.dayNumber ⟨9999, 12, 31⟩ = 2932896 := by decide
  have hyear := hdate.year
  have hrest : dayOfYear number = dayOfCycle number -
      daysBeforeYear (yearOfDay (dayOfCycle number)) := rfl
  unfold daysBeforeYear at hrest
  unfold daysPerCycle at hwhole hhigh
  unfold daysToEpoch at hwhole
  unfold daysPerCycle daysToEpoch at hyear
  rw [hstart] at hfirst
  rw [hend] at hlast
  simp only [hdate.month_le_two_iff] at hyear
  -- The first year lacks the days before March, and the last one those of the next January.
  by_cases hearly : 306 ≤ dayOfYear number
  · rw [if_pos hearly] at hyear
    omega
  · rw [if_neg hearly] at hyear
    omega

theorem Date.IsOf.isLeapYear (hdate : date.IsOf number) (hmonth : date.month ≤ 2)
    (hextra : dayOfYear number = 365) : isLeapYear date.year = true := by
  obtain ⟨hfirst, hlast⟩ := dayOfCycle_bounds number
  have hday : dayOfCycle number = daysBeforeYear (yearOfDay (dayOfCycle number)) + 365 := by
    unfold dayOfYear at hextra
    omega
  obtain ⟨hfour, hhundred⟩ := leap_of_day_eq hfirst hlast hday
  have hyear := hdate.year
  rw [if_pos hmonth] at hyear
  simp only [Time.isLeapYear, Bool.and_eq_true, Bool.or_eq_true, decide_eq_true_iff]
  omega

theorem Date.IsOf.day_le (hdate : date.IsOf number) :
    date.day ≤ daysInMonth date.year date.month := by
  obtain ⟨hfirst, hlast⟩ := dayOfYear_bounds number
  obtain ⟨hmarch, hlatest, -, -⟩ := monthOfDay_bounds hfirst hlast
  have hleap := hdate.isLeapYear
  have hmonth := hdate.month
  have hday := hdate.day
  have hdef : monthOfDay (dayOfYear number) = (5 * dayOfYear number + 2) / 153 := rfl
  unfold daysBeforeMonth at hday
  generalize monthOfDay (dayOfYear number) = month at *
  unfold daysInMonth
  split
  · have hfebruary : month = 11 := by omega
    by_cases hextra : dayOfYear number = 365
    · rw [hleap (by omega) hextra, if_pos rfl]
      omega
    · split <;> omega
  · have hapril : month = 1 := by omega
    omega
  · have hjune : month = 3 := by omega
    omega
  · have hseptember : month = 6 := by omega
    omega
  · have hnovember : month = 8 := by omega
    omega
  · omega

/-- Every day has a date that the calendar has. -/
theorem Date.isReal_ofDayNumber (number : Int) : (Date.ofDayNumber number).isReal = true := by
  have hdate := Date.isOf_ofDayNumber number
  have hmonth := hdate.month_bounds
  have hday := hdate.day_bounds
  simp only [Date.isReal, Bool.and_eq_true, decide_eq_true_iff]
  exact ⟨⟨hmonth, hday.1⟩, hdate.day_le⟩

/-- The day number of a date is found again. -/
theorem Date.IsOf.dayNumber_eq (hdate : date.IsOf number) : date.dayNumber = number := by
  obtain ⟨hfirst, hlast⟩ := dayOfCycle_bounds number
  obtain ⟨hlow, hhigh⟩ := yearOfDay_bounds hfirst hlast
  obtain ⟨hstart, hend⟩ := dayOfYear_bounds number
  obtain ⟨hmarch, hfebruary, -, -⟩ := monthOfDay_bounds hstart hend
  -- The months from March on, and the year that starts in March.
  have hmonth : ((date.month + 9) % 12 : Int) = monthOfDay (dayOfYear number) := by
    have := hdate.month
    omega
  have hyear : (if date.month ≤ 2 then date.year - 1 else date.year) =
      yearOfDay (dayOfCycle number) + (number + daysToEpoch) / daysPerCycle * 400 := by
    rw [hdate.year]
    by_cases hearly : date.month ≤ 2
    · rw [if_pos hearly, if_pos hearly, Int.add_sub_cancel]
    · rw [if_neg hearly, if_neg hearly, Int.add_zero]
  have hcycle : (yearOfDay (dayOfCycle number) + (number + daysToEpoch) / daysPerCycle * 400) / 400
      = (number + daysToEpoch) / daysPerCycle := by omega
  have hrest : (yearOfDay (dayOfCycle number) + (number + daysToEpoch) / daysPerCycle * 400) % 400
      = yearOfDay (dayOfCycle number) := by omega
  have hwhole : (number + daysToEpoch) / daysPerCycle * daysPerCycle + dayOfCycle number =
      number + daysToEpoch := Int.ediv_mul_add_emod _ _
  calc
    date.dayNumber = (number + daysToEpoch) / daysPerCycle * daysPerCycle +
        (daysBeforeYear (yearOfDay (dayOfCycle number)) +
          (daysBeforeMonth (monthOfDay (dayOfYear number)) + date.day - 1)) - daysToEpoch := by
      simp only [Date.dayNumber, hyear, hcycle, hrest, hmonth, daysBeforeYear]
      omega
    _ = (number + daysToEpoch) / daysPerCycle * daysPerCycle + dayOfCycle number -
        daysToEpoch := by
      rw [hdate.day, dayOfYear]
      omega
    _ = number := by omega

@[simp]
theorem Date.dayNumber_ofDayNumber (number : Int) : (Date.ofDayNumber number).dayNumber = number :=
  (Date.isOf_ofDayNumber number).dayNumber_eq

/-- Different days have different dates. -/
theorem Date.ofDayNumber_injective {number other : Int}
    (hsame : Date.ofDayNumber number = Date.ofDayNumber other) : number = other := by
  calc
    number = (Date.ofDayNumber number).dayNumber := (Date.dayNumber_ofDayNumber number).symm
    _ = (Date.ofDayNumber other).dayNumber := by rw [hsame]
    _ = other := Date.dayNumber_ofDayNumber other

end AirQuality.Time
