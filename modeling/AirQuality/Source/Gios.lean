import AirQuality.Json.Access
import AirQuality.Plan
import AirQuality.Source

/-!
# GIOS

The Polish state monitoring network.  Its payloads have Polish field names, and its timestamps
count as UTC.  Stations come in pages, of which every reply gives the total.  Readings come from
the live endpoint, or from the archival one where the live one has nothing usable.
-/

namespace AirQuality.Gios

open Time (Moment)

def name : String := "GIOS"

def base : String := "https://api.gios.gov.pl/pjp-api/v1/rest"

def pageSize : Int := 500

def stationsField : String := "Lista stacji pomiarowych"

def sensorsField : String := "Lista stanowisk pomiarowych dla podanej stacji"

/-- The fields that may hold readings, of which the first that holds some counts. -/
def readingsFields : List String :=
  ["Lista danych pomiarowych", "Lista archiwalnych wyników pomiarów"]

/-! ### Payloads -/

/-- A coordinate, with a comma or a point. -/
def coordinate? (value : Json) : Option Float :=
  Decimal.permissiveStyle.readFloat? (Text.replaceChar ',' '.' value.display.toList)

def coordinateJson (value : Json) : Json :=
  match coordinate? value with
  | some number => .float number
  | none => .null

/-- The station of a record; one without an id is none. -/
def station? (record : Json) : Except Failure (Option Station) := do
  let id ← record.fieldOrNull "Identyfikator stacji"
  if id.kind = .null ∨ Text.isAllBlank id.display.toList then pure none
  else
    let displayName ← record.fieldOrNull "Nazwa stacji"
    let latitude ← record.fieldOrNull "WGS84 φ N"
    let longitude ← record.fieldOrNull "WGS84 λ E"
    pure (some ⟨id.display, displayName, coordinateJson latitude, coordinateJson longitude, name⟩)

/-- The parameter a sensor measures. -/
def sensor (record : Json) : Except Failure Parameter := do
  let id ← record.fieldOrNull "Identyfikator stanowiska"
  let rawName ← record.fieldOrNull "Wskaźnik - kod"
  let displayName ← record.fieldOrNull "Wskaźnik"
  let description ← record.fieldOrNull "Wskaźnik - wzór"
  pure ⟨id.display, rawName, displayName, .null, description, name⟩

def readingRecord (entry : Json) : Except Failure Record := do
  pure ⟨← entry.fieldOrNull "Data", ← entry.fieldOrNull "Wartość"⟩

/-- The raw readings of a payload.  A payload of another shape has none. -/
def records (payload : Json) : Except Failure (List Record) :=
  match payload with
  | .object fields =>
    match readingsFields.find? fun field => ((fields.lookup field).getD .null).isPresent with
    | some field => do (← ((fields.lookup field).getD .null).elements).mapM readingRecord
    | none => .ok []
  | _ => .ok []

/-! ### Listings -/

def note (level : Log.Level) (text : String) : Work Unit := Work.note level .gios text

/-- The stations of records, in order; records without an id are passed over. -/
def readStations : List Json → Work (List Station)
  | [] => pure []
  | record :: rest => do
    match ← Work.lift (station? record) with
    | some station => pure (station :: (← readStations rest))
    | none => do
      note .debug s!"Skipping GIOS station without an id: {record.quoted}"
      readStations rest

/-- Whether a page is the last one, by the total its reply gives. -/
def isLastPage (page : Int) (total : Json) : Bool :=
  match total with
  | .int pages => pages ≤ page + 1
  | .bool value => (if value then 1 else 0) ≤ page + 1
  | _ => true

/-- The stations from a page on, of at most so many pages. -/
def stationsFrom : (pages : Nat) → (page : Int) → Work (List Station)
  | 0, _ => Work.unfinished
  | pages + 1, page => do
    let payload ← Work.fetch s!"{base}/station/findAll"
      (some [("page", .int page), ("size", .int pageSize)])
    if !payload.isPresent then pure []
    else
      let records ← Work.lift (do (← payload.fieldOrNull stationsField).elementsOrNone)
      let stations ← readStations records
      let total ← Work.lift (payload.fieldOrNull "totalPages")
      if isLastPage page total then pure stations
      else do pure (stations ++ (← stationsFrom pages (page + 1)))

def stations (pages : Nat) : Work (List Station) :=
  Work.degrade .gios "GiosAdapter.list_stations" [] do
    let stations ← stationsFrom pages 0
    note .debug s!"Fetched {stations.length} stations from GIOS"
    pure stations

def parameters (stationId : String) : Work (List Parameter) :=
  Work.degrade .gios "GiosAdapter.list_parameters" [] do
    let payload ← Work.fetch s!"{base}/station/sensors/{stationId}" none
    if !payload.isPresent then
      note .warning s!"No sensors returned for GIOS station {stationId}"
      pure []
    else Work.lift do ((← (← payload.fieldOrNull sensorsField).elementsOrNone).mapM sensor)

/-! ### Measurements -/

def liveRecords (sensorId : String) : Work (List Record) :=
  Work.degrade .gios "GiosAdapter._live_records" [] do
    let payload ← Work.fetch s!"{base}/data/getData/{sensorId}" none
    Work.lift (records payload)

def archivalRecords (sensorId : String) : Work (List Record) :=
  Work.degrade .gios "GiosAdapter._archival_records" [] do
    let payload ← Work.fetch s!"{base}/archivalData/getDataBySensor/{sensorId}"
      (some [("dayNumber", .int 1)])
    Work.lift (records payload)

/-- The canonical key of a sensor, from the sensors its station lists. -/
def lookUpKey (stationId sensorId : String) : Work String := do
  let listed ← parameters stationId
  match listed.find? fun parameter => parameter.id = sensorId with
  | some parameter => Work.lift parameter.canonicalKey
  | none => do
    note .warning s!"GIOS sensor {sensorId} not listed for station {stationId}"
    pure CanonicalKey.unknown

/-- The measurements of an endpoint; if there are none, a note says so. -/
def usable (now : Moment) (query : Query) (key endpoint : String) (records : Work (List Record)) :
    Work (List Measurement) := do
  let records ← records
  let measurements ← Work.lift
    (Measurement.ofRecords ⟨query.stationId, key, name⟩ now query.limits none records)
  if measurements.isEmpty then
    note .debug s!"No usable GIOS readings for sensor {query.parameterId} from {endpoint}"
  pure measurements

def measurements (now : Moment) (query : Query) : Work (List Measurement) := do
  let key ← match query.parameterKey with
    | some key => pure key
    | none => lookUpKey query.stationId query.parameterId
  let live ← usable now query key "_live_records" (liveRecords query.parameterId)
  if live.isEmpty then usable now query key "_archival_records" (archivalRecords query.parameterId)
  else pure live

/-- GIOS as a source, which lists stations from at most so many pages. -/
def source (now : Moment) (pages : Nat) : Source Plan where
  name := name
  stations := stations pages
  parameters := parameters
  measurements := measurements now

end AirQuality.Gios
