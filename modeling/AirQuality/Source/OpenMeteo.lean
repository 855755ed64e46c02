import AirQuality.Json.Access
import AirQuality.Plan
import AirQuality.Source
import AirQuality.TextFile

/-!
# Open-Meteo

A model of the air that gives values for any position.  Its stations are a list of points, by
default the capitals of the voivodeships, and every point offers the same variables.  A reading
is the current one, or else those of the hourly series that are not forecasts.
-/

namespace AirQuality.OpenMeteo

open Time (Moment)
open Decimal (Number)

def name : String := "OPEN_METEO"

def url : String := "https://air-quality-api.open-meteo.com/v1/air-quality"

def maxPastDays : Int := 92

def note (level : Log.Level) (text : String) : Work Unit := Work.note level .openMeteo text

/-! ### Variables -/

/-- A variable of the model.  Its label names the pollutant as other sources do, so that its
canonical key is theirs; carbon dioxide goes without its formula, which contains another's. -/
structure Variable where
  id : String
  label : String
  unit : String
  description : String
deriving DecidableEq

def concentration : String := "μg/m³"

def allVariables : List Variable :=
  [⟨"pm10", "PM10", concentration, "Particulate matter with diameter below 10 μm"⟩,
    ⟨"pm2_5", "PM2.5", concentration, "Particulate matter with diameter below 2.5 μm"⟩,
    ⟨"carbon_monoxide", "Carbon monoxide (CO)", concentration,
      "Carbon monoxide at 10 m above ground"⟩,
    ⟨"carbon_dioxide", "Carbon dioxide", "ppm", "Carbon dioxide at 10 m above ground"⟩,
    ⟨"nitrogen_dioxide", "Nitrogen dioxide (NO2)", concentration,
      "Nitrogen dioxide at 10 m above ground"⟩,
    ⟨"sulphur_dioxide", "Sulphur dioxide (SO2)", concentration,
      "Sulphur dioxide at 10 m above ground"⟩,
    ⟨"ozone", "Ozone (O3)", concentration, "Ozone at 10 m above ground"⟩,
    ⟨"ammonia", "Ammonia", concentration, "Ammonia at 10 m above ground"⟩,
    ⟨"methane", "Methane", concentration, "Methane at 10 m above ground"⟩,
    ⟨"aerosol_optical_depth", "Aerosol optical depth", "", "Aerosol optical depth at 550 nm"⟩,
    ⟨"dust", "Dust", concentration, "Saharan dust particles at 10 m above ground"⟩,
    ⟨"uv_index", "UV index", "", "UV index"⟩,
    ⟨"uv_index_clear_sky", "UV index clear sky", "", "UV index assuming cloud-free conditions"⟩]

def find? (id : String) : Option Variable := allVariables.find? fun candidate => candidate.id = id

def Variable.parameter (quantity : Variable) : Parameter where
  id := quantity.id
  rawName := .text quantity.label
  displayName := .text quantity.label
  unit := .text quantity.unit
  description := .text quantity.description
  source := name

/-- The parameter of a variable's id. -/
def parameter (id : String) : Except Failure Parameter :=
  match find? id with
  | some quantity => .ok quantity.parameter
  | none => .error (.shape (.missingField id))

/-- The canonical key of a variable. -/
def Variable.canonicalKey (quantity : Variable) : String := CanonicalKey.ofName quantity.label

/-! ### Points -/

/-- A capital with its position in units of 0.0001 degrees. -/
def capital (displayName : String) (latitude longitude : Nat) : Station where
  id := String.ofList (Text.lower displayName.toList)
  displayName := .text displayName
  latitude := .float (Float.ofScientific latitude true 4)
  longitude := .float (Float.ofScientific longitude true 4)
  source := name

def capitals : List Station :=
  [capital "Wroclaw" 511079 170385, capital "Bydgoszcz" 531235 180084,
    capital "Lublin" 512465 225684, capital "Gorzow-Wielkopolski" 527368 152288,
    capital "Lodz" 517592 194560, capital "Krakow" 500647 199450,
    capital "Warszawa" 522297 210122, capital "Opole" 506751 179213,
    capital "Rzeszow" 500412 219991, capital "Bialystok" 531325 231688,
    capital "Gdansk" 543520 186466, capital "Katowice" 502649 190238,
    capital "Kielce" 508661 206286, capital "Olsztyn" 537784 204801,
    capital "Poznan" 524064 169252, capital "Szczecin" 534285 145528]

/-- The point an entry of a file describes. -/
def pointOfEntry (entry : Json) : Except Failure Station := do
  let id ← entry.field "id"
  let displayName ← entry.fieldOrNull "name"
  let latitude ← (← entry.field "latitude").toFloat
  let longitude ← (← entry.field "longitude").toFloat
  pure ⟨id.display, displayName, .float latitude, .float longitude, name⟩

/-- The points in a file, a JSON list of objects with an id, a name and a position. -/
def pointsOfFile (file : TextFile) (room : Nat := Json.maxRoom) :
    Except Failure (List Station) := do
  match ← file.readJson .unreadableStations room with
  | .list entries =>
    entries.mapM fun entry => TextFile.inEntry (.invalidStation entry) (pointOfEntry entry)
  | _ => .error (.argument (.stationsNotAList file.path))

/-- A point set among others: in the place of one with its id, or at the end. -/
def setPoint (point : Station) : List Station → List Station
  | [] => [point]
  | other :: rest => if other.id = point.id then point :: rest else other :: setPoint point rest

/-- Points with different ids; of equal ids the last point counts, in the first place. -/
def distinctPoints (points : List Station) : List Station :=
  points.foldl (fun done point => setPoint point done) []

/-! ### Payloads -/

/-- A block of a payload; what does not count as anything is an empty one. -/
def block (label : String) (payload : Json) : Except Failure Json := do
  pure ((← (payload.orElse (.object [])).fieldOrNull label).orElse (.object []))

/-- The current reading of a variable, if the payload has one. -/
def currentRecords (payload : Json) (id : String) : Except Failure (List Record) := do
  let current ← block "current" payload
  if ← current.hasPart id then
    pure [⟨← current.fieldOrNull "time", ← current.fieldOrNull id⟩]
  else pure []

/-- The hourly readings of a variable: the times and values of equal places. -/
def hourlyRecords (payload : Json) (id : String) : Except Failure (List Record) := do
  let hourly ← block "hourly" payload
  let times ← hourly.fieldOrNull "time"
  let values ← hourly.fieldOrNull id
  pure (List.zipWith Record.mk (← times.elementsOrNone) (← values.elementsOrNone))

/-! ### Requests -/

/-- The least whole number of days that a number of days does not exceed. -/
def wholeDays (days : Number) : Except Failure Int :=
  match days with
  | .whole count => .ok count
  | .real count =>
    match Decimal.ceiling? count with
    | some whole => .ok whole
    | none =>
      .error (.number (if Decimal.isNaN count then .notANumberToInteger else .infinityToInteger))

/-- How many days back the hourly series has to go. -/
def pastDays (limits : Limits) : Except Failure Int :=
  match limits.maxAgeDays with
  | none => .ok maxPastDays
  | some days => do pure (min maxPastDays (max 1 (← wholeDays days)))

/-- Asks for one block of one variable at a point. -/
def payload (point : Station) (id label : String) (pastDays : Option Int) : Work Json :=
  Work.degrade .openMeteo "OpenMeteoAdapter._payload" (.object []) do
    let history := match pastDays with
      | some days => [("past_days", .int days), ("forecast_days", .int 1)]
      | none => []
    Work.fetch url (some ([("latitude", point.latitude), ("longitude", point.longitude),
      (label, .text id), ("timezone", .text "GMT")] ++ history))

def parameters (points : List Station) (offered : List Variable) (stationId : String) :
    Work (List Parameter) :=
  if points.any fun point => point.id = stationId then pure (offered.map Variable.parameter)
  else do
    note .warning s!"Unknown Open-Meteo point '{stationId}'"
    pure []

def measurementsAt (now : Moment) (query : Query) (point : Station) (quantity : Variable) :
    Work (List Measurement) := do
  let key := (query.parameterKey.filter (· ≠ "")).getD quantity.canonicalKey
  let tag : Measurement.Tag := ⟨query.stationId, key, name⟩
  let current ← payload point quantity.id "current" none
  let live ← Work.lift do
    Measurement.ofRecords tag now query.limits none (← currentRecords current quantity.id)
  if live.isEmpty then
    let days ← Work.lift (pastDays query.limits)
    let hourly ← payload point quantity.id "hourly" (some days)
    Work.lift do
      Measurement.ofRecords tag now query.limits (some now) (← hourlyRecords hourly quantity.id)
  else pure live

/-- The measurements of a known variable at a known point; there are no others. -/
def measurements (now : Moment) (points : List Station) (query : Query) :
    Work (List Measurement) :=
  match points.find? fun point => point.id = query.stationId, find? query.parameterId with
  | some point, some quantity => measurementsAt now query point quantity
  | _, _ => pure []

/-- The variables of some ids, all of which have to be known. -/
def offered (ids : List String) : Except Failure (List Variable) :=
  match ids.filter fun id => (find? id).isNone with
  | [] => .ok (ids.filterMap find?)
  | unknown => .error (.argument (.unknownVariables unknown))

/-- Open-Meteo as a source with some points and variables. -/
def source (now : Moment) (points : List Station) (offered : List Variable) : Source Plan :=
  let points := distinctPoints points
  { name := name
    stations := pure points
    parameters := parameters points offered
    measurements := measurements now points }

end AirQuality.OpenMeteo
