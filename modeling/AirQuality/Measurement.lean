import AirQuality.Reading

/-!
# Measurements

A measurement is a reading that a station took of a canonical parameter, and the source that
reported it.  Its value is what the source gave, a binary64 number if it was made from a raw
record.
-/

namespace AirQuality

open Time (Moment)

/-- What the readings of one request have in common. -/
structure Measurement.Tag where
  stationId : String
  parameterKey : String
  source : String
deriving DecidableEq

structure Measurement where
  value : Json
  timestamp : Moment
  stationId : String
  parameterKey : String
  source : String

namespace Measurement

def toJson (measurement : Measurement) : Json :=
  .object [("value", measurement.value), ("timestamp", .text measurement.timestamp.iso),
    ("station_id", .text measurement.stationId),
    ("parameter_key", .text measurement.parameterKey),
    ("source_system", .text measurement.source)]

/-- Reads a measurement; what is left out comes from a tag. -/
def ofJson (tag : Tag) (row : Json) : Measurement :=
  ⟨row.get "value", (row.get "timestamp").asMoment,
    row.textOr "station_id" tag.stationId, row.textOr "parameter_key" tag.parameterKey,
    row.textOr "source_system" tag.source⟩

def ofReading (tag : Tag) (reading : Reading) : Except Failure Measurement := do
  let timestamp ← reading.moment
  pure ⟨.float reading.value, timestamp, tag.stationId, tag.parameterKey, tag.source⟩

/-- The measurements among raw records that limits let through, newest first; `last` bounds
them from above. -/
def ofRecords (tag : Tag) (now : Moment) (limits : Limits) (last : Option Moment)
    (records : List Record) : Except Failure (List Measurement) := do
  let readings ← Reading.select now limits last records
  readings.mapM (ofReading tag)

end Measurement

end AirQuality
