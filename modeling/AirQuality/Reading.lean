import AirQuality.Json.Loose
import AirQuality.Reading.Column
import AirQuality.Time.Span

/-!
# Readings

A raw record has a timestamp and a value in whatever shape its provider gave them.  It counts
as a reading if both can be made out and the value is finite.  Every provider's readings are
selected by the same rules: newer than an age limit, newest first, and no more than a cap;
readings of one instant keep their order.
-/

namespace AirQuality

open Decimal (Number)
open Time (Moment)

/-- A raw record. -/
structure Record where
  timestamp : Json
  value : Json

def Record.toJson (record : Record) : Json :=
  .object [("timestamp", record.timestamp), ("value", record.value)]

/-- Reads a record, in which a field that is left out is not a number. -/
def Record.ofJson (row : Json) : Record :=
  ⟨row.getOr "timestamp" id (.float Decimal.notANumber),
    row.getOr "value" id (.float Decimal.notANumber)⟩

/-- How many readings to keep, and how many days back; none for no limit. -/
structure Limits where
  maxCount : Option Int
  maxAgeDays : Option Number
deriving DecidableEq

/-- The limits of a caller who gives none. -/
def Limits.standard : Limits := ⟨some 100, some (.whole 30)⟩

/-- Reads limits; what is left out is as for a caller who gives none. -/
def Limits.ofJson (value : Json) : Limits where
  maxCount := value.getOr "max_count" (Json.given Json.asInt) standard.maxCount
  maxAgeDays := value.getOr "max_age_days" (Json.given Json.asNumber) standard.maxAgeDays

structure Reading where
  /-- Nanoseconds of UTC since 1 January 1970. -/
  instant : Int
  value : Float

namespace Reading

/-- The instant of a limit.  It has to say how far it is from UTC exactly if the column of
timestamps that it is compared with does. -/
def limitInstant (kind : Column.Kind) (limit : Moment) : Except Failure Int :=
  let naive := kind = .naiveInstants
  if limit.isNaive = naive then .ok (limit.instant * 1000)
  else .error (.table (.incomparableInstants (kind = .instants true) naive))

/-- A reading from an instant and a number, unless one is missing or the number not finite. -/
def ofCells? (instant : Option Int) (value : Float) : Option Reading :=
  match instant with
  | some instant => if Decimal.isFinite value then some ⟨instant, value⟩ else none
  | none => none

/-- The readings among instants and the values beside them. -/
def ofColumns (instants : List (Option Int)) (values : List Json) :
    Except Failure (List Reading) := do
  let numbers ← Column.numbers values
  pure ((List.zipWith ofCells? instants numbers).filterMap id)

/-- The readings whose instant stands in a relation to a limit, or all of them without one. -/
def within (holds : (instant limit : Int) → Bool) (kind : Column.Kind) (limit : Option Moment)
    (readings : List Reading) : Except Failure (List Reading) :=
  match limit with
  | none => .ok readings
  | some limit => do
    let limit ← limitInstant kind limit
    pure (readings.filter fun reading => holds reading.instant limit)

/-- The readings at or before a limit. -/
def notAfter : Column.Kind → Option Moment → List Reading → Except Failure (List Reading) :=
  within fun instant limit => instant ≤ limit

/-- The readings after a cutoff. -/
def newerThan : Column.Kind → Option Moment → List Reading → Except Failure (List Reading) :=
  within fun instant limit => limit < instant

/-- The newest readings first, those of one instant in their order. -/
def newestFirst (readings : List Reading) : List Reading :=
  readings.mergeSort fun first second => second.instant ≤ first.instant

/-- The first so many items; none for all of them and a negative number for none of them. -/
def capped {α : Type} (count : Option Int) (items : List α) : List α :=
  match count with
  | none => items
  | some count => items.take count.toNat

/-- The moment before which readings are too old. -/
def cutoff (now : Moment) (limits : Limits) : Except Failure (Option Moment) :=
  match limits.maxAgeDays with
  | none => .ok none
  | some days => do pure (some (← now.daysBefore days))

/-- The readings among raw records that limits let through.  Where all timestamps are flags there
is none, and limits have to be naive like them. -/
def select (now : Moment) (limits : Limits) (last : Option Moment) (records : List Record) :
    Except Failure (List Reading) := do
  if records.isEmpty then pure []
  else
    let timestamps := Column.ofCells (records.map (·.timestamp))
    let values := Column.ofCells (records.map (·.value))
    let oldest ← cutoff now limits
    let (kind, instants) := Column.instants timestamps.1 timestamps.2
    let readings ← ofColumns instants values.2
    let readings ← notAfter kind last readings
    let readings ← newerThan kind oldest readings
    pure (capped limits.maxCount (newestFirst readings))

/-- The moment of a reading on UTC, to the microsecond. -/
def moment (reading : Reading) : Except Failure Moment :=
  let wall := reading.instant / 1000
  if Time.inCalendar wall then .ok (Moment.atUtc wall)
  else .error (.table (.yearOutOfRange (Time.yearOf wall)))

end Reading

end AirQuality
