import AirQuality.Contribution
import AirQuality.Summary.Statistics

/-!
# Summaries

A summary says what all sources together report for one canonical key: statistics of the
values, the latest reading, the sources that took part, and the texts that describe the
parameter, each from the first contribution that has one.
-/

namespace AirQuality

open Decimal (Number)
open Time (Moment)

structure Summary where
  key : String
  displayName : Json
  unit : Json
  description : Json
  /-- The sources of the measurements, in alphabetical order. -/
  sources : List String
  average : Float
  least : Float
  greatest : Float
  count : Nat
  latestValue : Float
  /-- The moment of the latest reading, on UTC. -/
  latestMoment : Moment

namespace Summary

/-- Whether a value says something: it is neither missing nor the empty text. -/
def isGiven : Json → Bool
  | .null => false
  | .text value => value ≠ ""
  | _ => true

/-- The first value that says something, or else a text. -/
def firstGiven (values : List Json) (fallback : String) : Json :=
  ((values.find? isGiven).getD .null).orElse (.text fallback)

/-- The measurement with the greatest instant, of several the first. -/
def latest? : List Measurement → Option Measurement
  | [] => none
  | measurement :: rest =>
    match latest? rest with
    | none => some measurement
    | some other =>
      if measurement.timestamp.instant < other.timestamp.instant then some other
      else some measurement

/-- The sources of measurements, in alphabetical order. -/
def sourcesOf (measurements : List Measurement) : List String :=
  (Contribution.distinct (measurements.map (·.source))).mergeSort

/-- The same instant on a wall clock that shows UTC. -/
def onUtc (moment : Moment) : Except Failure Moment :=
  if Time.inCalendar moment.instant then .ok (Moment.atUtc moment.instant)
  else .error (.table (.yearOutOfRange (Time.yearOf moment.instant)))

/-! ### Values

The values of all measurements make up one column, whose kind decides how they count. -/

/-- The kind of the column of all values. -/
def kindOfValues (contributions : List Contribution) : Column.Kind :=
  Column.kindOf ((Contribution.measurementsOf contributions).map (·.value))

/-- A value among others of which not all are numbers; a missing one adds nothing. -/
def addend (value : Json) : Except Failure Number :=
  if value.isMissing then .ok (.whole 0)
  else
    match value.asNumber? with
    | some number => .ok number
    | none => .error (.table .meanOfMixture)

/-- The mean of values of which not all are numbers.  Whole numbers add up exactly. -/
def meanOfMixture (values : List Json) : Except Failure Float := do
  let addends ← values.mapM addend
  match (Number.sum? addends).bind Number.toReal? with
  | none => .error (.table .numberTooLarge)
  | some total =>
    match values.countP (!·.isMissing) with
    | 0 => pure Decimal.notANumber
    | count => pure (total / Float.ofNat count)

/-- The mean of some values of a column.  Texts have none. -/
def meanOf (kind : Column.Kind) (values : List Json) : Except Failure Float :=
  match kind with
  | .text => .error (.table .meanOfTexts)
  | .mixed => meanOfMixture values
  | _ => .ok (Statistics.mean (values.map Column.realOf))

/-- The latest value of a column as a number.  Null counts as one only among numbers. -/
def latestNumber (kind : Column.Kind) (value : Json) : Except Failure Float :=
  match kind, value with
  | .mixed, value => value.toFloat
  | _, value => .ok (Column.realOf value)

/-! ### Summaries of keys -/

/-- The summary of the contributions under a key, whose latest measurement is known. -/
def ofMembers (kind : Column.Kind) (key : String) (members : List Contribution)
    (latest : Measurement) : Except Failure Summary := do
  let measurements := Contribution.measurementsOf members
  let values := measurements.map (·.value)
  let numbers := values.map Column.realOf
  let parameters := members.map (·.parameter)
  let average ← meanOf kind values
  let latestValue ← latestNumber kind latest.value
  let latestMoment ← onUtc latest.timestamp
  pure {
    key := key
    displayName := firstGiven (parameters.map (·.displayName)) key
    unit := firstGiven (parameters.map (·.unit)) ""
    description := firstGiven (parameters.map (·.description)) ""
    sources := sourcesOf measurements
    average := average
    least := Statistics.least numbers
    greatest := Statistics.greatest numbers
    count := (Statistics.numbers numbers).length
    latestValue := latestValue
    latestMoment := latestMoment }

/-- The summary of a key, if there are measurements under it. -/
def ofKey (kind : Column.Kind) (keyed : List (String × Contribution)) (key : String) :
    Except Failure (Option Summary) :=
  let members := Contribution.under key keyed
  match latest? (Contribution.measurementsOf members) with
  | none => .ok none
  | some latest => do pure (some (← ofMembers kind key members latest))

/-- The summaries of contributions, in the order in which their keys first have a
measurement. -/
def ofContributions (contributions : List Contribution) : Except Failure (List Summary) := do
  if (Contribution.measurementsOf contributions).isEmpty then pure []
  else
    let keyed ← Contribution.keyed contributions
    let summaries ← (Contribution.keys keyed).mapM (ofKey (kindOfValues contributions) keyed)
    pure (summaries.filterMap id)

end Summary

end AirQuality
