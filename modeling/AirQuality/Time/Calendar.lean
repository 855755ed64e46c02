/-!
# The calendar

Dates of the Gregorian calendar, continued to all years before and after, and the number of
days between a date and 1 January 1970.  Years count through zero.  A date can also be named by
its week.
-/

namespace AirQuality.Time

structure Date where
  year : Int
  month : Nat
  day : Nat
deriving DecidableEq, Inhabited

def isLeapYear (year : Int) : Bool := year % 4 = 0 && (year % 100 ≠ 0 || year % 400 = 0)

def daysInMonth (year : Int) (month : Nat) : Nat :=
  match month with
  | 2 => if isLeapYear year then 29 else 28
  | 4 | 6 | 9 | 11 => 30
  | _ => 31

/-- A date that the calendar has. -/
def Date.isReal (date : Date) : Bool :=
  1 ≤ date.month && date.month ≤ 12 && 1 ≤ date.day &&
    date.day ≤ daysInMonth date.year date.month

/-- Days in the 400 years of one cycle of leap years. -/
def daysPerCycle : Int := 146097

/-- Days from 1 March of year zero to 1 January 1970. -/
def daysToEpoch : Int := 719468

/-- The days of a year that starts in March, up to the first of a month counted from March. -/
def daysBeforeMonth (monthFromMarch : Int) : Int := (153 * monthFromMarch + 2) / 5

/-- Days from 1 January 1970 to a date, negative before it. -/
def Date.dayNumber (date : Date) : Int :=
  let year := if date.month ≤ 2 then date.year - 1 else date.year
  let cycle := year / 400
  let yearOfCycle := year % 400
  let monthFromMarch : Int := (date.month + 9) % 12
  let dayOfYear := daysBeforeMonth monthFromMarch + date.day - 1
  let dayOfCycle := yearOfCycle * 365 + yearOfCycle / 4 - yearOfCycle / 100 + dayOfYear
  cycle * daysPerCycle + dayOfCycle - daysToEpoch

/-- The date so many days after 1 January 1970. -/
def Date.ofDayNumber (number : Int) : Date :=
  let shifted := number + daysToEpoch
  let cycle := shifted / daysPerCycle
  let dayOfCycle := shifted % daysPerCycle
  let yearOfCycle :=
    (dayOfCycle - dayOfCycle / 1460 + dayOfCycle / 36524 - dayOfCycle / 146096) / 365
  let dayOfYear := dayOfCycle - (365 * yearOfCycle + yearOfCycle / 4 - yearOfCycle / 100)
  let monthFromMarch := (5 * dayOfYear + 2) / 153
  let day := dayOfYear - daysBeforeMonth monthFromMarch + 1
  let month := (monthFromMarch + 2) % 12 + 1
  let year := yearOfCycle + cycle * 400 + (if month ≤ 2 then 1 else 0)
  { year := year, month := month.toNat, day := day.toNat }

/-! ### Weeks -/

/-- Days from 1 January 1970 to the Monday on which the first week of a year starts, which is
the week of 4 January. -/
def firstMonday (year : Int) : Int :=
  let number := Date.dayNumber ⟨year, 1, 4⟩
  number - (number + 3) % 7

/-- The date of a day of a week, if the year has such a week.  Weeks and days count from one, and
a week starts on Monday. -/
def Date.ofWeek? (year : Int) (week day : Nat) : Option Date :=
  let monday := firstMonday year + ((week : Int) - 1) * 7
  if 1 ≤ week ∧ monday < firstMonday (year + 1) ∧ 1 ≤ day ∧ day ≤ 7 then
    some (Date.ofDayNumber (monday + day - 1))
  else none

end AirQuality.Time
