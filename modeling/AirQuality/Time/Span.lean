import AirQuality.Decimal.Number
import AirQuality.Failure
import AirQuality.Time.Moment

/-!
# Spans of days

A number of days, whole or not, as microseconds.  The part of a day is taken as a binary64
number of microseconds and rounded to the nearest one, a half to the even neighbour.  Spans
are limited to a little under a thousand million days.
-/

namespace AirQuality.Time

open Decimal (Number)

/-- The most days a span may have, before or after. -/
def maxSpanDays : Int := 999999999

/-- Day counts from here on have no name in messages. -/
def daysLimit : Int := 0x80000000

/-- The nearest integer to a finite number, and of two the even one. -/
def nearestInt (x : Float) : Int :=
  match Decimal.parts x with
  | .finite negative mantissa exponent =>
    let (num, den) := Decimal.binaryFraction mantissa exponent
    let size : Int := Decimal.roundDiv num den
    if negative then -size else size
  | _ => 0

/-- Microseconds in a number of days, without regard to the limits of a span. -/
def microsOfDays (days : Number) : Except Failure Int :=
  match days with
  | .whole count => .ok (count * microsPerDay)
  | .real count =>
    match Decimal.truncate? count with
    | some whole =>
      let part := (count - Float.ofInt whole) * Float.ofInt microsPerDay
      .ok (whole * microsPerDay + nearestInt part)
    | none =>
      .error (.number (if Decimal.isNaN count then .notANumberToInteger else .infinityToInteger))

/-- A number of days as microseconds. -/
def span (days : Number) : Except Failure Int := do
  let micros ← microsOfDays days
  let whole := micros / microsPerDay
  if -daysLimit ≤ whole ∧ whole < daysLimit then
    if -maxSpanDays ≤ whole ∧ whole ≤ maxSpanDays then pure micros
    else .error (.number (.tooManyDays whole))
  else .error (.number .daysOutOfRange)

/-- The moment a span before another one, on the same wall clock. -/
def Moment.before (moment : Moment) (micros : Int) : Except Failure Moment :=
  let wall := moment.wall - micros
  if inCalendar wall then .ok { moment with wall := wall } else .error (.number .dateOutOfRange)

/-- The moment so many days before another one. -/
def Moment.daysBefore (moment : Moment) (days : Number) : Except Failure Moment := do
  moment.before (← span days)

end AirQuality.Time
