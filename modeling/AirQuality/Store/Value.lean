import AirQuality.Decimal.Layout
import AirQuality.Json.Access
import AirQuality.Time.Moment

/-!
# Values as they are kept

A record may hold any value, but a row keeps a text, a binary64 number with one zero, or
nothing.  Numbers among texts are kept as texts, and texts among numbers as the numbers they
stand for.  What is not a number is kept as nothing.  Texts are made of characters here, so one
with half of a surrogate pair, for which a row has no room, is not among them.
-/

namespace AirQuality.Store

open Time (Moment)

/-- A moment on UTC, if it lies in the calendar there. -/
def onNaiveUtc (moment : Moment) : Except Failure Moment :=
  if moment.isNaive || Time.inCalendar moment.instant then .ok moment.naiveUtc
  else .error (.number .dateOutOfRange)

/-- What a wall clock shows, without its distance from UTC. -/
def unmarked (moment : Moment) : Moment := ⟨moment.wall, none⟩

/-- A value as a number, or nothing. -/
def keptNumber (value : Json) : Except Failure Json :=
  match value with
  | .null => .ok .null
  | other =>
    match other.toFloat with
    | .ok number => .ok (if Decimal.isNaN number then .null else .float (Decimal.oneZero number))
    | .error _ => .error (.table .unstorableValue)

/-- The least whole number that is too large to be kept. -/
def wholeBound : Int := 0x8000000000000000

/-- A value as a text, or nothing. -/
def keptText (value : Json) : Except Failure Json :=
  match value with
  | .null => .ok .null
  | .text text => .ok (.text text)
  | .bool flag => .ok (.text (if flag then "1" else "0"))
  | .int whole =>
    if -wholeBound ≤ whole ∧ whole < wholeBound then
      .ok (.text (String.ofList (Decimal.intText whole)))
    else .error (.number .integerBeyondStore)
  | .float number =>
    .ok (.ofOption (fun text => .text (String.ofList text)) (Decimal.storedText? number))
  | .list _ | .object _ => .error (.table .compoundValue)

/-- Refuses a row that lacks a value. -/
def require (values : List Json) : Except Failure Unit :=
  if values.all (·.kind ≠ .null) then .ok () else .error (.table .rejectedRow)

end AirQuality.Store
