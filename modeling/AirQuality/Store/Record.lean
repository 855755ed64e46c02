import AirQuality.Measurement
import AirQuality.Parameter
import AirQuality.Station
import AirQuality.Store.Value

/-!
# Records

What is kept of stations, parameters and measurements.  A record has a key by which it is found
and which it never changes.  A measurement is recorded at its moment on UTC.  Of any moment a row
keeps what the wall clock shows, and not its distance from UTC.  A record without a source, a
station or whatever else names it is refused, and so is a measurement without a value.
-/

namespace AirQuality.Store

open Time (Moment)

/-- How a kind of record is kept. -/
class Record (ρ : Type) where
  key : ρ → String
  /-- The moment that says how old a row is. -/
  age : ρ → Moment
  /-- A new record in the place of a row. -/
  replacing : (now : Moment) → (old new : ρ) → ρ
  /-- The row as which a record is kept, unless it is refused. -/
  kept : ρ → Except Failure ρ
  toJson : ρ → Json

/-- A key from the values that name a record. -/
def keyOf (values : List Json) : String := ":".intercalate (values.map Json.display)

/-! ### Stations -/

structure StationRecord where
  key : String
  source : Json
  stationId : Json
  displayName : Json
  latitude : Json
  longitude : Json
  createdAt : Moment
  updatedAt : Moment

namespace StationRecord

/-- The key of a station of a source. -/
def keyFor (source stationId : Json) : String := keyOf [source, stationId]

def ofStation (now : Moment) (station : Station) : StationRecord where
  key := keyFor (.text station.source) (.text station.id)
  source := .text station.source
  stationId := .text station.id
  displayName := station.displayName
  latitude := station.latitude
  longitude := station.longitude
  createdAt := now
  updatedAt := now

/-- Reads a record; without a source of its own it is one of the source given. -/
def ofJson (now : Moment) (source : String) (row : Json) : StationRecord :=
  let source := row.getOr "source_system" id (.text source)
  { key := keyFor source (row.get "id")
    source := source
    stationId := row.get "id"
    displayName := row.get "display_name"
    latitude := row.get "latitude"
    longitude := row.get "longitude"
    createdAt := (row.moment? "created_at").getD now
    updatedAt := (row.moment? "updated_at").getD now }

def kept (record : StationRecord) : Except Failure StationRecord := do
  let latitude ← keptNumber record.latitude
  let longitude ← keptNumber record.longitude
  let source ← keptText record.source
  let stationId ← keptText record.stationId
  let displayName ← keptText record.displayName
  require [source, stationId]
  pure {
    key := record.key
    source := source
    stationId := stationId
    displayName := displayName
    latitude := latitude
    longitude := longitude
    createdAt := unmarked record.createdAt
    updatedAt := unmarked record.updatedAt }

def toJson (record : StationRecord) : Json :=
  .object [("key", .text record.key), ("source_system", record.source),
    ("station_id", record.stationId), ("display_name", record.displayName),
    ("latitude", record.latitude), ("longitude", record.longitude),
    ("created_at", .text record.createdAt.iso), ("updated_at", .text record.updatedAt.iso)]

/-- A station that is seen again stays as old as it was, and has been updated now. -/
instance : Record StationRecord where
  key := key
  age := updatedAt
  replacing now old new := { new with createdAt := old.createdAt, updatedAt := now }
  kept := kept
  toJson := toJson

end StationRecord

/-! ### Parameters -/

structure ParameterRecord where
  key : String
  source : Json
  stationId : Json
  parameterId : Json
  canonicalKey : String
  rawName : Json
  displayName : Json
  unit : Json
  description : Json
  createdAt : Moment
  updatedAt : Moment

namespace ParameterRecord

/-- The key of a parameter of a station. -/
def keyFor (source stationId parameterId : Json) : String :=
  keyOf [source, stationId, parameterId]

def ofParameter (now : Moment) (stationId : String) (parameter : Parameter) :
    Except Failure ParameterRecord := do
  pure {
    key := keyFor (.text parameter.source) (.text stationId) (.text parameter.id)
    source := .text parameter.source
    stationId := .text stationId
    parameterId := .text parameter.id
    canonicalKey := ← parameter.canonicalKey
    rawName := parameter.rawName
    displayName := parameter.displayName
    unit := parameter.unit
    description := parameter.description
    createdAt := now
    updatedAt := now }

/-- Reads a record; without a source of its own it is one of the source given. -/
def ofJson (now : Moment) (source : String) (row : Json) : Except Failure ParameterRecord := do
  let source := row.getOr "source_system" id (.text source)
  pure {
    key := keyFor source (row.get "station_id") (row.get "parameter_id")
    source := source
    stationId := row.get "station_id"
    parameterId := row.get "parameter_id"
    canonicalKey := ← CanonicalKey.ofJson (row.get "raw_name")
    rawName := row.get "raw_name"
    displayName := row.get "display_name"
    unit := row.get "unit"
    description := row.get "description"
    createdAt := (row.moment? "created_at").getD now
    updatedAt := (row.moment? "updated_at").getD now }

def kept (record : ParameterRecord) : Except Failure ParameterRecord := do
  let source ← keptText record.source
  let stationId ← keptText record.stationId
  let parameterId ← keptText record.parameterId
  let rawName ← keptText record.rawName
  let displayName ← keptText record.displayName
  let unit ← keptText record.unit
  let description ← keptText record.description
  require [source, stationId, parameterId]
  pure {
    key := record.key
    source := source
    stationId := stationId
    parameterId := parameterId
    canonicalKey := record.canonicalKey
    rawName := rawName
    displayName := displayName
    unit := unit
    description := description
    createdAt := unmarked record.createdAt
    updatedAt := unmarked record.updatedAt }

def toJson (record : ParameterRecord) : Json :=
  .object [("key", .text record.key), ("source_system", record.source),
    ("station_id", record.stationId), ("parameter_id", record.parameterId),
    ("canonical_key", .text record.canonicalKey), ("raw_name", record.rawName),
    ("display_name", record.displayName), ("unit", record.unit),
    ("description", record.description), ("created_at", .text record.createdAt.iso),
    ("updated_at", .text record.updatedAt.iso)]

/-- A parameter that is seen again stays as old as it was, and has been updated now. -/
instance : Record ParameterRecord where
  key := key
  age := updatedAt
  replacing now old new := { new with createdAt := old.createdAt, updatedAt := now }
  kept := kept
  toJson := toJson

end ParameterRecord

/-! ### Measurements -/

structure MeasurementRecord where
  key : String
  source : Json
  stationId : Json
  parameterKey : Json
  value : Json
  timestamp : Moment
  createdAt : Moment

namespace MeasurementRecord

/-- The key of a measurement of a parameter. -/
def keyFor (source stationId parameterId : Json) (timestamp : Moment) : String :=
  keyOf [source, stationId, parameterId, .text timestamp.iso]

def ofMeasurement (now : Moment) (parameterId : String) (measurement : Measurement) :
    Except Failure MeasurementRecord := do
  let timestamp ← onNaiveUtc measurement.timestamp
  pure {
    key := keyFor (.text measurement.source) (.text measurement.stationId) (.text parameterId)
      timestamp
    source := .text measurement.source
    stationId := .text measurement.stationId
    parameterKey := .text measurement.parameterKey
    value := measurement.value
    timestamp := timestamp
    createdAt := now }

/-- Reads a record; what is left out comes from a tag. -/
def ofJson (now : Moment) (tag : Measurement.Tag) (row : Json) :
    Except Failure MeasurementRecord := do
  let source := row.getOr "source_system" id (.text tag.source)
  let stationId := row.getOr "station_id" id (.text tag.stationId)
  let timestamp ← onNaiveUtc (row.get "timestamp").asMoment
  pure {
    key := keyFor source stationId (row.get "parameter_id") timestamp
    source := source
    stationId := stationId
    parameterKey := row.getOr "parameter_key" id (.text tag.parameterKey)
    value := row.get "value"
    timestamp := timestamp
    createdAt := (row.moment? "created_at").getD now }

def kept (record : MeasurementRecord) : Except Failure MeasurementRecord := do
  let value ← keptNumber record.value
  let source ← keptText record.source
  let stationId ← keptText record.stationId
  let parameterKey ← keptText record.parameterKey
  require [source, stationId, parameterKey, value]
  pure {
    key := record.key
    source := source
    stationId := stationId
    parameterKey := parameterKey
    value := value
    timestamp := unmarked record.timestamp
    createdAt := unmarked record.createdAt }

def toJson (record : MeasurementRecord) : Json :=
  .object [("key", .text record.key), ("source_system", record.source),
    ("station_id", record.stationId), ("parameter_key", record.parameterKey),
    ("value", record.value), ("timestamp", .text record.timestamp.iso),
    ("created_at", .text record.createdAt.iso)]

/-- A measurement that is seen again counts as new. -/
instance : Record MeasurementRecord where
  key := key
  age := timestamp
  replacing _ _ new := new
  kept := kept
  toJson := toJson

end MeasurementRecord

end AirQuality.Store
