import AirQuality.Proofs.Time.Written
import AirQuality.Time.Stamp
import Mathlib.Data.List.Basic
import Mathlib.Data.List.TakeWhile

/-!
# Written moments read back

A moment is written as providers write their timestamps, so what is written can be read back.  A
moment on UTC in the calendar is read back as the very instant it is, with its microseconds if it
has any.
-/

namespace AirQuality.Time.Stamp

open Moment (digits dateText clockText)

/-! ### Digits -/

variable {n : Int} {rest : List Char}

theorem asciiDigitValue?_of_isDigit {c : Char} (hdigit : c.isDigit) :
    Text.asciiDigitValue? c = some (c.toNat - 48) := by
  rw [Text.asciiDigitValue?, if_pos (Text.toNat_of_isDigit hdigit)]

theorem isDigit_of_isDigit {c : Char} (hdigit : c.isDigit) : isDigit c = true := by
  rw [isDigit, asciiDigitValue?_of_isDigit hdigit]
  rfl

theorem isDigit_of_mem_digits {width : Nat} {c : Char} (hmem : c ∈ digits width n) :
    isDigit c = true :=
  isDigit_of_isDigit (Moment.isDigit_of_mem_digits hmem)

theorem value_of_isDigit {text : List Char} (hdigits : ∀ c ∈ text, c.isDigit) :
    value text = Nat.ofDigitChars 10 text 0 := by
  have hvalues : text.filterMap Text.asciiDigitValue? = text.map fun c => c.toNat - 48 := by
    rw [← List.filterMap_eq_map]
    exact List.filterMap_congr fun c hmem => asciiDigitValue?_of_isDigit (hdigits c hmem)
  rw [value, hvalues, Decimal.digitsValue_map]

theorem value_digits (width : Nat) (n : Int) : value (digits width n) = n.natAbs := by
  rw [value_of_isDigit fun c hmem => Moment.isDigit_of_mem_digits hmem,
    Moment.ofDigitChars_digits]

/-- A number of two digits is two characters. -/
theorem exists_digits_two (hsize : n.natAbs < 10 ^ 2) :
    ∃ tens ones, digits 2 n = [tens, ones] ∧ isDigit tens = true ∧ isDigit ones = true := by
  obtain ⟨tens, ones, htwo⟩ := List.length_eq_two.mp (Moment.length_digits hsize (by decide))
  have hdigit (c : Char) (hmem : c ∈ [tens, ones]) : isDigit c = true :=
    isDigit_of_mem_digits (htwo ▸ hmem)
  exact ⟨tens, ones, htwo, hdigit tens (by simp), hdigit ones (by simp)⟩

theorem shortNumber?_digits (short : Bool) (hsize : n.natAbs < 10 ^ 2) :
    shortNumber? short (digits 2 n ++ rest) = some (n.natAbs, rest) := by
  have hvalue := value_digits 2 n
  obtain ⟨tens, ones, htwo, htens, hones⟩ := exists_digits_two hsize
  rw [htwo] at hvalue ⊢
  simp [shortNumber?, htens, hones, hvalue]

theorem startsWithDigit_digits (hsize : n.natAbs < 10 ^ 2) :
    startsWithDigit (digits 2 n ++ rest) = true := by
  obtain ⟨tens, ones, htwo, htens, -⟩ := exists_digits_two hsize
  rw [htwo]
  exact htens

/-! ### Dates -/

theorem yearPart_digits (atStart : Bool) (hsize : n.natAbs < 10 ^ 4) :
    yearPart atStart (digits 4 n ++ '-' :: rest) = (↑n.natAbs, '-' :: rest) := by
  have hlength : (digits 4 n).length = 4 := Moment.length_digits hsize (by decide)
  have hyear : yearLength (digits 4 n ++ '-' :: rest) = 4 := by
    rw [yearLength, List.take_left' hlength,
      List.takeWhile_eq_self_iff.mpr fun c => isDigit_of_mem_digits, hlength]
  have hplain : plainYear (digits 4 n ++ '-' :: rest) = (↑n.natAbs, '-' :: rest) := by
    rw [plainYear, if_pos hyear, List.take_left' hlength, List.drop_left' hlength, value_digits]
  rw [← hplain]
  cases hdigits : digits 4 n with
  | nil =>
      rw [hdigits] at hlength
      cases hlength
  | cons first others =>
      have hmem : first ∈ digits 4 n := hdigits ▸ List.mem_cons_self
      have hfirst : isDigit first = true := isDigit_of_mem_digits hmem
      have hminus : first ≠ '-' := by
        rintro rfl
        cases hfirst
      simp [yearPart, hminus]

theorem separator?_minus (hdigit : startsWithDigit rest = true) :
    separator? ('-' :: rest) = some (some '-', rest) := by
  have hminus : isDigit '-' = false := by decide
  have hmember : '-' ∈ separators := by decide
  simp [separator?, hminus, hmember, hdigit]

theorem datePart?_dateText {date : Date} (atStart : Bool) (hdate : Moment.IsWritable date)
    (hreal : date.isReal = true) :
    datePart? atStart (dateText date ++ rest) = some (date, rest) := by
  have hyear : date.year.natAbs < 10 ^ 4 := by
    have := hdate.year
    omega
  have hmonth : (date.month : Int).natAbs < 10 ^ 2 := hdate.month
  have hday : (date.day : Int).natAbs < 10 ^ 2 := hdate.day
  have hbounds := hreal
  simp only [Date.isReal, Bool.and_eq_true, decide_eq_true_iff] at hbounds
  have hreach : ¬(date.month < 1 ∨ 12 < date.month) := by omega
  have hpositive : (date.year.natAbs : Int) = date.year := by
    have := hdate.year
    omega
  have htext : dateText date ++ rest =
      digits 4 date.year ++ '-' :: (digits 2 date.month ++ '-' :: (digits 2 date.day ++ rest)) := by
    simp [dateText]
  have hsome (text : List Char) : (digits 4 date.year ++ '-' :: text).isEmpty = false ∧
      decide (digits 4 date.year ++ '-' :: text = ['-']) = false := by
    cases hdigits : digits 4 date.year with
    | nil => simpa [hdigits] using Moment.length_digits hyear (by decide)
    | cons first others => simp
  simp only [htext, datePart?, yearPart_digits atStart hyear, List.isEmpty_cons,
    separator?_minus (startsWithDigit_digits hmonth), hsome, Bool.or_false,
    Option.bind_eq_bind, Option.bind_some, Option.isSome_some, shortNumber?_digits true hmonth,
    shortNumber?_digits true hday, Int.natAbs_natCast, if_neg hreach, afterSeparator?,
    if_true, if_false, Bool.false_eq_true, hpositive, hreal]

/-! ### Times of day -/

/-- The digits of a fraction of a second in microseconds; there are none if it is zero. -/
def fractionDigits (micros : Int) : List Char := if micros = 0 then [] else digits 6 micros

theorem fractionPart?_micros (hsize : n.natAbs < 10 ^ 6) :
    fractionPart? ((if n = 0 then [] else '.' :: digits 6 n) ++ '+' :: rest) =
      some (fractionDigits n, '+' :: rest) := by
  have hplus : isDigit '+' = false := by decide
  unfold fractionDigits
  by_cases hnone : n = 0
  · rw [if_pos hnone, if_pos hnone]
    rfl
  · rw [if_neg hnone, if_neg hnone]
    have hdigits : ∀ c ∈ digits 6 n, isDigit c = true := fun c => isDigit_of_mem_digits
    have hlength : (digits 6 n).length = 6 := Moment.length_digits hsize (by decide)
    simp [fractionPart?, List.takeWhile_append_of_pos hdigits, List.dropWhile_append_of_pos hdigits,
      hplus, hlength, maxFractionDigits]

variable {minute second : Int} {fraction : List Char} {text : List Char}

theorem minutesPart?_digits (hour : Nat) (hminute : minute.natAbs < 60)
    (hsecond : second.natAbs < 60) (hfraction : fractionPart? text = some (fraction, rest)) :
    minutesPart? hour true (digits 2 minute ++ ':' :: (digits 2 second ++ text)) =
      some ⟨hour * 3600 + minute.natAbs * 60 + second.natAbs, fraction, rest⟩ := by
  have hminutes : minute.natAbs < 10 ^ 2 := by omega
  have hseconds : second.natAbs < 10 ^ 2 := by omega
  simp only [minutesPart?, shortNumber?_digits true hminutes, shortNumber?_digits true hseconds,
    startsWithDigit_digits hseconds, Option.bind_eq_bind, Option.bind_some, hfraction, if_true,
    if_neg (Nat.not_le.mpr hminute), if_neg (Nat.not_le.mpr hsecond)]

theorem clockPart?_digits {hour : Int} (hhour : hour.natAbs < 24) (hminute : minute.natAbs < 60)
    (hsecond : second.natAbs < 60) (hfraction : fractionPart? text = some (fraction, rest)) :
    clockPart? (digits 2 hour ++ ':' :: (digits 2 minute ++ ':' :: (digits 2 second ++ text))) =
      some ⟨hour.natAbs * 3600 + minute.natAbs * 60 + second.natAbs, fraction, rest⟩ := by
  have hhours : hour.natAbs < 10 ^ 2 := by omega
  have hminutes : minute.natAbs < 10 ^ 2 := by omega
  simp only [clockPart?, shortNumber?_digits true hhours, Option.bind_eq_bind, Option.bind_some,
    if_neg (Nat.not_le.mpr hhour), startsWithDigit_digits hminutes, if_true,
    minutesPart?_digits hour.natAbs hminute hsecond hfraction]

theorem clockPart?_clockText {time : Int} (htime : 0 ≤ time ∧ time < microsPerDay) :
    clockPart? (clockText time ++ '+' :: rest) =
      some ⟨(time / microsPerSecond).toNat, fractionDigits (time % microsPerSecond),
        '+' :: rest⟩ := by
  unfold microsPerDay microsPerSecond at htime
  have hmicros : (time % microsPerSecond).natAbs < 10 ^ 6 := by
    unfold microsPerSecond
    omega
  have hclock : clockText time ++ '+' :: rest =
      digits 2 (time / microsPerSecond / 3600) ++ ':' ::
        (digits 2 (time / microsPerSecond / 60 % 60) ++ ':' ::
          (digits 2 (time / microsPerSecond % 60) ++
            ((if time % microsPerSecond = 0 then [] else '.' :: digits 6 (time % microsPerSecond))
              ++ '+' :: rest))) := by
    simp only [clockText, List.append_assoc, List.cons_append]
  rw [hclock, clockPart?_digits _ _ _ (fractionPart?_micros hmicros)]
  · congr 2
    unfold microsPerSecond
    omega
  all_goals
    unfold microsPerSecond
    omega

theorem fractionNanos_digits (hn : 0 ≤ n ∧ n < microsPerSecond) :
    (fractionNanos (fractionDigits n) : Int) = n * 1000 := by
  unfold microsPerSecond at hn
  unfold fractionDigits
  by_cases hnone : n = 0
  · rw [if_pos hnone, hnone]
    rfl
  · have hlength : (digits 6 n).length = 6 := Moment.length_digits (by omega) (by decide)
    have hdigits : ∀ c ∈ digits 6 n ++ ['0', '0', '0'], c.isDigit := by
      intro c hmem
      cases List.mem_append.mp hmem with
      | inl hdigit => exact Moment.isDigit_of_mem_digits hdigit
      | inr hzero =>
          rw [List.eq_of_mem_replicate (n := 3) hzero]
          decide
    have hnine : (digits 6 n ++ List.replicate 9 '0').take 9 = digits 6 n ++ ['0', '0', '0'] := by
      rw [List.take_append, List.take_of_length_le (by omega), hlength]
      rfl
    have hzeros (start : Nat) : Nat.ofDigitChars 10 ['0', '0', '0'] start = start * 1000 := by
      rw [Nat.ofDigitChars_eq_foldl]
      change 10 * (10 * (10 * start + 0) + 0) + 0 = _
      omega
    rw [if_neg hnone, fractionNanos, hnine, value_of_isDigit hdigits, Nat.ofDigitChars_append,
      Moment.ofDigitChars_digits, hzeros]
    omega

theorem length_fractionDigits_le (hn : 0 ≤ n ∧ n < microsPerSecond) :
    (fractionDigits n).length ≤ 6 := by
  unfold microsPerSecond at hn
  unfold fractionDigits
  by_cases hnone : n = 0
  · rw [if_pos hnone]
    exact Nat.zero_le 6
  · rw [if_neg hnone, Moment.length_digits (by omega) (by decide)]

/-! ### Moments -/

theorem dropWhile_dateText {date : Date} (hdate : Moment.IsWritable date) :
    (dateText date ++ rest).dropWhile Text.isAsciiBlank = dateText date ++ rest := by
  have hyear : date.year.natAbs < 10 ^ 4 := by
    have := hdate.year
    omega
  unfold dateText
  cases hdigits : digits 4 date.year with
  | nil => simpa [hdigits] using Moment.length_digits hyear (by decide)
  | cons first others =>
      have hmem : first ∈ digits 4 date.year := hdigits ▸ List.mem_cons_self
      have hblank : Text.isAsciiBlank first = false := by
        obtain ⟨hleast, hgreatest⟩ := Text.toNat_of_isDigit (Moment.isDigit_of_mem_digits hmem)
        simp [Text.isAsciiBlank]
        omega
      simp [hblank]

theorem isoChars_of_utc {moment : Moment} (hutc : moment.offset = some 0) :
    moment.isoChars = dateText (Date.ofDayNumber (moment.wall / microsPerDay)) ++
      'T' :: (clockText (moment.wall % microsPerDay) ++ ['+', '0', '0', ':', '0', '0']) := by
  rw [Moment.isoChars, hutc, Option.map_some, Option.getD_some, List.append_assoc]
  rfl

theorem not_mem_digits {width : Nat} {c : Char} (hother : c.isDigit = false) :
    c ∉ digits width n := by
  intro hmem
  rw [Moment.isDigit_of_mem_digits hmem] at hother
  cases hother

/-- A moment on UTC is written with a point if it has microseconds. -/
theorem point_mem_iso_iff {moment : Moment} (hutc : moment.offset = some 0) :
    '.' ∈ moment.iso.toList ↔ moment.wall % microsPerSecond ≠ 0 := by
  have hpoint (width : Nat) (n : Int) : '.' ∉ digits width n := not_mem_digits (by decide)
  have hmicros : moment.wall % microsPerDay % microsPerSecond = moment.wall % microsPerSecond := by
    unfold microsPerDay microsPerSecond
    omega
  rw [Moment.iso, String.toList_ofList, isoChars_of_utc hutc]
  by_cases hnone : moment.wall % microsPerSecond = 0
  · simp [dateText, clockText, hpoint, hmicros, hnone]
  · simp [dateText, clockText, hpoint, hmicros, hnone]

/-- A moment on UTC is read back from its written form. -/
theorem ofText?_iso {moment : Moment} (hutc : moment.offset = some 0)
    (hcalendar : inCalendar moment.wall = true) :
    ofText? moment.iso = some ⟨moment.wall * 1000, false⟩ := by
  have htime : 0 ≤ moment.wall % microsPerDay ∧ moment.wall % microsPerDay < microsPerDay :=
    ⟨Int.emod_nonneg _ (by decide), Int.emod_lt_of_pos _ (by decide)⟩
  have hdate : Moment.IsWritable (Date.ofDayNumber (moment.wall / microsPerDay)) :=
    Moment.isWritable_of_inCalendar hcalendar
  have hzone : zonePart? ['+', '0', '0', ':', '0', '0'] = some 0 := by decide +kernel
  have hmark : ¬('T' ≠ 'T' ∧ 'T' ≠ ' ') := by decide
  have hmicros : 0 ≤ moment.wall % microsPerDay % microsPerSecond ∧
      moment.wall % microsPerDay % microsPerSecond < microsPerSecond :=
    ⟨Int.emod_nonneg _ (by decide), Int.emod_lt_of_pos _ (by decide)⟩
  have hfine : decide (6 < (fractionDigits (moment.wall % microsPerDay % microsPerSecond)).length)
      = false := decide_eq_false (Nat.not_lt.mpr (length_fractionDigits_le hmicros))
  rw [ofText?, Moment.iso, String.toList_ofList, isoChars_of_utc hutc]
  simp only [ofChars?, dropWhile_dateText hdate, datePart?_dateText _ hdate
    (Date.isReal_ofDayNumber _), Option.bind_eq_bind, Option.bind_some, if_neg hmark,
    clockPart?_clockText htime, hzone, Date.dayNumber_ofDayNumber, hfine,
    fractionNanos_digits hmicros]
  congr 2
  unfold microsPerDay microsPerSecond nanosPerSecond
  omega

end AirQuality.Time.Stamp
