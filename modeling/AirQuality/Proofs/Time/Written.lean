import AirQuality.Proofs.Decimal.Numeral
import AirQuality.Proofs.Time.Calendar
import AirQuality.Time.Moment

/-!
# The written form of a moment

Every part of the written form but the microseconds has a fixed number of digits, so the form of an
unmarked moment in the calendar is read back part by part: different moments are written
differently.  The form always has two colons.
-/

namespace AirQuality.Time.Moment

open Decimal (isDigit_of_mem_natText natText padLeft)

/-! ### Digits -/

variable {width : Nat} {n m : Int} {rest others : List Char}

theorem length_digits (hsize : n.natAbs < 10 ^ width) (hwidth : 0 < width) :
    (digits width n).length = width := by
  have hlength : (natText n.natAbs).length ≤ width :=
    (Nat.length_toDigits_le_iff (by decide) hwidth).mpr hsize
  unfold digits padLeft
  rw [List.length_append, List.length_replicate]
  omega

theorem isDigit_of_mem_digits {c : Char} (hmem : c ∈ digits width n) : c.isDigit := by
  cases List.mem_append.mp hmem with
  | inl hzero =>
      rw [List.eq_of_mem_replicate hzero]
      decide
  | inr hdigit => exact isDigit_of_mem_natText hdigit

theorem ofDigitChars_digits (width : Nat) (n : Int) :
    Nat.ofDigitChars 10 (digits width n) 0 = n.natAbs := by
  unfold digits padLeft natText
  rw [Nat.ofDigitChars_append, Nat.ofDigitChars_replicate_zero, Nat.mul_zero,
    Nat.ofDigitChars_ten_toDigits]

/-- Digits of one width are read off the start of a text. -/
theorem digits_append_inj (hn : n.natAbs < 10 ^ width) (hm : m.natAbs < 10 ^ width)
    (hwidth : 0 < width) (hsame : digits width n ++ rest = digits width m ++ others) :
    n.natAbs = m.natAbs ∧ rest = others := by
  have hlength : (digits width n).length = (digits width m).length := by
    rw [length_digits hn hwidth, length_digits hm hwidth]
  obtain ⟨hdigits, hrest⟩ := List.append_inj hsame hlength
  refine ⟨?_, hrest⟩
  calc
    n.natAbs = Nat.ofDigitChars 10 (digits width n) 0 := (ofDigitChars_digits width n).symm
    _ = Nat.ofDigitChars 10 (digits width m) 0 := by rw [hdigits]
    _ = m.natAbs := ofDigitChars_digits width m

theorem count_digits {c : Char} (hother : c.isDigit = false) : (digits width n).count c = 0 := by
  apply List.count_eq_zero_of_not_mem
  intro hmem
  rw [isDigit_of_mem_digits hmem] at hother
  cases hother

/-! ### Dates -/

variable {date other : Date}

/-- A date whose year has four digits at most, and its month and day two. -/
structure IsWritable (date : Date) : Prop where
  year : 0 ≤ date.year ∧ date.year < 10000
  month : date.month < 100
  day : date.day < 100

theorem isWritable_ofDayNumber {number : Int} (hfirst : Date.dayNumber ⟨1, 1, 1⟩ ≤ number)
    (hlast : number ≤ Date.dayNumber ⟨9999, 12, 31⟩) : IsWritable (Date.ofDayNumber number) := by
  have hdate := Date.isOf_ofDayNumber number
  obtain ⟨hyear, hyears⟩ := hdate.year_bounds hfirst hlast
  obtain ⟨-, hmonth⟩ := hdate.month_bounds
  obtain ⟨-, hday⟩ := hdate.day_bounds
  exact ⟨by omega, by omega, by omega⟩

theorem dateText_append_inj (hdate : IsWritable date) (hother : IsWritable other)
    (hsame : dateText date ++ rest = dateText other ++ others) :
    date = other ∧ rest = others := by
  simp only [dateText, List.append_assoc, List.cons_append] at hsame
  obtain ⟨hyear, hsame⟩ := digits_append_inj (by have := hdate.year; omega)
    (by have := hother.year; omega) (by decide) hsame
  obtain ⟨hmonth, hsame⟩ := digits_append_inj (by have := hdate.month; omega)
    (by have := hother.month; omega) (by decide) (List.cons.inj hsame).2
  obtain ⟨hday, hsame⟩ := digits_append_inj (by have := hdate.day; omega)
    (by have := hother.day; omega) (by decide) (List.cons.inj hsame).2
  refine ⟨?_, hsame⟩
  have := hdate.year
  have := hother.year
  cases date
  cases other
  simp only [Date.mk.injEq]
  dsimp only at *
  omega

theorem count_dateText : (dateText date).count ':' = 0 := by
  simp [dateText, count_digits]

/-! ### Times of day -/

variable {time later : Int}

/-- Microseconds, unless there are none. -/
theorem microsText_inj (hn : 0 ≤ n ∧ n < microsPerSecond) (hm : 0 ≤ m ∧ m < microsPerSecond)
    (hsame : (if n = 0 then [] else '.' :: digits 6 n) =
      (if m = 0 then [] else '.' :: digits 6 m)) : n = m := by
  unfold microsPerSecond at hn hm
  by_cases hnone : n = 0
  · by_cases hnothing : m = 0
    · rw [hnone, hnothing]
    · rw [if_pos hnone, if_neg hnothing] at hsame
      cases hsame
  · by_cases hnothing : m = 0
    · rw [if_neg hnone, if_pos hnothing] at hsame
      cases hsame
    · rw [if_neg hnone, if_neg hnothing] at hsame
      have hdigits : digits 6 n ++ [] = digits 6 m ++ [] := by
        rw [(List.cons.inj hsame).2]
      obtain ⟨hsize, -⟩ := digits_append_inj (by omega) (by omega) (by decide) hdigits
      omega

theorem clockText_inj (htime : 0 ≤ time ∧ time < microsPerDay)
    (hlater : 0 ≤ later ∧ later < microsPerDay) (hsame : clockText time = clockText later) :
    time = later := by
  unfold microsPerDay microsPerSecond at htime hlater
  simp only [clockText, List.append_assoc, List.cons_append] at hsame
  unfold microsPerSecond at hsame
  obtain ⟨hhours, hsame⟩ := digits_append_inj (by omega) (by omega) (by decide) hsame
  obtain ⟨hminutes, hsame⟩ := digits_append_inj (by omega) (by omega) (by decide)
    (List.cons.inj hsame).2
  obtain ⟨hseconds, hsame⟩ := digits_append_inj (by omega) (by omega) (by decide)
    (List.cons.inj hsame).2
  have hmicros := microsText_inj (by unfold microsPerSecond; omega)
    (by unfold microsPerSecond; omega) hsame
  omega

theorem count_clockText : (clockText time).count ':' = 2 := by
  have hcolon : ':'.isDigit = false := by decide
  unfold clockText
  by_cases hnone : time % microsPerSecond = 0
  · simp [hnone, count_digits hcolon]
  · simp [hnone, count_digits hcolon]

/-! ### Moments -/

variable {moment twin : Moment}

theorem count_isoChars (hnaive : moment.offset = none) : moment.isoChars.count ':' = 2 := by
  simp [isoChars, hnaive, count_dateText, count_clockText]

theorem isWritable_of_inCalendar {wall : Int} (hcalendar : inCalendar wall = true) :
    IsWritable (Date.ofDayNumber (wall / microsPerDay)) := by
  obtain ⟨hfirst, hlast⟩ : firstWall ≤ wall ∧ wall ≤ lastWall := by
    simpa [inCalendar] using hcalendar
  unfold firstWall at hfirst
  unfold lastWall at hlast
  apply isWritable_ofDayNumber
  · exact Int.le_ediv_of_mul_le (by decide) hfirst
  · have hday : wall < (Date.dayNumber ⟨9999, 12, 31⟩ + 1) * microsPerDay := by omega
    have := Int.ediv_lt_of_lt_mul (by decide) hday
    omega

/-- Unmarked moments in the calendar are the same if they are written the same. -/
theorem wall_eq_of_isoChars_eq (hnaive : moment.offset = none) (hunmarked : twin.offset = none)
    (hmoment : inCalendar moment.wall = true) (htwin : inCalendar twin.wall = true)
    (hsame : moment.isoChars = twin.isoChars) : moment.wall = twin.wall := by
  simp only [isoChars, hnaive, hunmarked, Option.map_none, Option.getD_none, List.append_nil]
    at hsame
  obtain ⟨hdate, hclock⟩ := dateText_append_inj (isWritable_of_inCalendar hmoment)
    (isWritable_of_inCalendar htwin) hsame
  have hdays := Date.ofDayNumber_injective hdate
  have htime (wall : Int) : 0 ≤ wall % microsPerDay ∧ wall % microsPerDay < microsPerDay :=
    ⟨Int.emod_nonneg _ (by decide), Int.emod_lt_of_pos _ (by decide)⟩
  have htimes := clockText_inj (htime moment.wall) (htime twin.wall) (List.cons.inj hclock).2
  calc
    moment.wall = moment.wall / microsPerDay * microsPerDay + moment.wall % microsPerDay :=
      (Int.ediv_mul_add_emod _ _).symm
    _ = twin.wall / microsPerDay * microsPerDay + twin.wall % microsPerDay := by
      rw [hdays, htimes]
    _ = twin.wall := Int.ediv_mul_add_emod _ _

end AirQuality.Time.Moment
