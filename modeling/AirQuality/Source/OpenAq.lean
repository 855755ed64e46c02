import AirQuality.Json.Access
import AirQuality.Plan
import AirQuality.Source

/-!
# OpenAQ

A platform that collects readings worldwide, of which the Polish locations are listed.  Readings
of a sensor come oldest first in pages of a fixed size, with a total that may be exact or only a
bound.  With an exact total just the last pages are read.  Without a key the source has nothing.
-/

namespace AirQuality.OpenAq

open Time (Moment)

def name : String := "OPENAQ"

def base : String := "https://api.openaq.org/v3"

def country : String := "PL"

def pageLimit : Int := 1000

def note (level : Log.Level) (text : String) : Work Unit := Work.note level .openAq text

/-! ### Payloads -/

/-- A count that may be written with marks such as `>` in front, and what to say if it cannot be
read and a default takes its place. -/
def readCount (value : Json) (default : Int) : Int × Option Log.Entry :=
  if !value.isPresent then (default, none)
  else
    match Decimal.permissiveStyle.readInt? (value.display.toList.dropWhile (· = '>')) with
    | some count => (count, none)
    | none =>
      (default, some ⟨.warning, .openAq,
        s!"Could not convert {value.quoted} to int, using {default}"⟩)

def count (value : Json) (default : Int) : Work Int :=
  match readCount value default with
  | (count, none) => pure count
  | (count, some entry) => do
    note entry.level entry.text
    pure count

/-- A total that is exact, as it stands; null if it is only a bound. -/
def exactTotal (value : Json) : Except Failure Json :=
  match value with
  | .int _ | .bool _ => .ok value
  | .float number =>
    match Decimal.truncate? number with
    | some whole => .ok (.int whole)
    | none => if Decimal.isNaN number then .ok .null else .error (.number .infinityToInteger)
  | .text raw =>
    match Decimal.permissiveStyle.readInt? raw.toList with
    | some whole => .ok (.int whole)
    | none => .ok .null
  | _ => .ok .null

def totalValue? : Json → Option Int
  | .int value => some value
  | .bool value => some (if value then 1 else 0)
  | _ => none

/-- A field that should be an object; what does not count as anything is an empty one. -/
def objectField (field : String) (record : Json) : Except Failure Json := do
  pure ((← record.fieldOrNull field).orElse (.object []))

def location (record : Json) : Except Failure Station := do
  let coordinates ← objectField "coordinates" record
  let id ← record.fieldOrNull "id"
  let displayName ← record.fieldOrNull "name"
  let latitude ← coordinates.fieldOrNull "latitude"
  let longitude ← coordinates.fieldOrNull "longitude"
  pure ⟨id.display, displayName, latitude, longitude, name⟩

def sensor (record : Json) : Except Failure Parameter := do
  let parameter ← objectField "parameter" record
  let id ← record.fieldOrNull "id"
  let rawName ← parameter.fieldOrNull "name"
  let shown ← parameter.fieldOrNull "displayName"
  let sensorName ← record.fieldOrNull "name"
  let unit ← parameter.fieldOrNull "units"
  pure ⟨id.display, rawName, shown.orElse sensorName, unit, sensorName, name⟩

def readingRecord (record : Json) : Except Failure Record := do
  let period ← objectField "period" record
  let upTo ← objectField "datetimeTo" period
  pure ⟨← upTo.fieldOrNull "utc", ← record.fieldOrNull "value"⟩

/-! ### Pages -/

/-- A page of an endpoint; nothing there is an empty page. -/
def page (endpoint : String) (parameters : List (String × Json)) (number : Int) : Work Json := do
  let payload ← Work.fetch s!"{base}/{endpoint}"
    (some (parameters ++ [("page", .int number), ("limit", .int pageLimit)]))
  pure (payload.orElse (.object []))

/-- The results of a page; an empty list if there are none. -/
def resultsOf (page : Json) : Except Failure Json := do
  pure ((← page.fieldOrNull "results").orElse (.list []))

/-- How many pages of a size hold a total. -/
def pageCount (total size : Int) : Int := if 0 < size then (total + size - 1) / size else 1

/-- The results from a page on, each of them read at once, of at most so many pages. -/
def pagesFrom {β : Type} (endpoint : String) (parameters : List (String × Json))
    (read : Json → Except Failure β) : (pages : Nat) → (number : Int) → Work (List β)
  | 0, _ => Work.unfinished
  | pages + 1, number => do
    let payload ← page endpoint parameters number
    let results ← Work.lift (resultsOf payload)
    if !results.isPresent then pure []
    else
      let items ← Work.lift (do (← results.elements).mapM read)
      let about ← Work.lift (objectField "meta" payload)
      let total ← count (← Work.lift (about.fieldOrNull "found")) 0
      let size ← count (← Work.lift (about.fieldOrNull "limit")) pageLimit
      let last := pageCount total size
      note .debug s!"{endpoint}: page {number}/{last}, found={total}"
      if last ≤ number then pure items
      else do pure (items ++ (← pagesFrom endpoint parameters read pages (number + 1)))

/-- Results with more results behind them, which has to be a list. -/
def join (results : Json) (more : List Json) : Except Failure (List Json) :=
  match results with
  | .list items => .ok (items ++ more)
  | other => .error (.shape (.notJoinable other.kind))

/-- The page from which on the newest so many results lie, the first page apart. -/
def firstNeeded (total size wanted : Int) : Int := max 2 (max (total - wanted) 0 / size + 1)

def pageNumbers (first last : Int) : List Int :=
  (List.range (last + 1 - first).toNat).map fun (offset : Nat) => first + offset

/-- At least the newest so many results of an endpoint that lists the oldest first.  With an
exact total only the pages that hold them are asked for, and else all of them. -/
def latestResults (pages : Nat) (endpoint : String) (parameters : List (String × Json))
    (wanted : Option Int) : Work (List Json) := do
  let payload ← page endpoint parameters 1
  let results ← Work.lift (resultsOf payload)
  let about ← Work.lift (objectField "meta" payload)
  let total ← Work.lift (do exactTotal (← about.fieldOrNull "found"))
  let size ← count (← Work.lift (about.fieldOrNull "limit")) pageLimit
  if !results.isPresent ∨ size ≤ 0 then Work.lift results.elements
  else
    match wanted, totalValue? total with
    | some wanted, some found =>
      let last := pageCount found size
      if last ≤ 1 then Work.lift results.elements
      else
        let first := firstNeeded found size wanted
        note .debug s!"{endpoint}: found={total.display}, reading pages {first}-{last}"
        let tail ← (pageNumbers first last).mapM fun number => do
          let payload ← page endpoint parameters number
          Work.lift (do (← resultsOf payload).elements)
        if first = 2 then Work.lift (join results tail.flatten) else pure tail.flatten
    | _, _ => do
      let more ← pagesFrom endpoint parameters .ok pages 2
      Work.lift (join results more)

/-! ### Listings -/

def missingKeyText : String := "OpenAQ API key not configured (set OPENAQ_API_KEY), skipping OpenAQ"

/-- Work that needs a key; without one it has nothing and says so. -/
def withKey {β : Type} (hasKey : Bool) (work : Work (List β)) : Work (List β) :=
  if hasKey then work
  else do
    note .warning missingKeyText
    pure []

def stations (hasKey : Bool) (pages : Nat) : Work (List Station) :=
  Work.degrade .openAq "OpenAQAdapter.list_stations" [] <| withKey hasKey do
    let stations ← pagesFrom "locations" [("iso", .text country)] location pages 1
    note .debug s!"Fetched {stations.length} locations from OpenAQ"
    pure stations

def parameters (hasKey : Bool) (stationId : String) : Work (List Parameter) :=
  Work.degrade .openAq "OpenAQAdapter.list_parameters" [] <| withKey hasKey do
    let payload ← Work.fetch s!"{base}/locations/{stationId}/sensors" none
    Work.lift do ((← (← resultsOf (payload.orElse (.object []))).elements).mapM sensor)

/-! ### Measurements -/

def records (pages : Nat) (sensorId endpoint : String) (parameters : List (String × Json))
    (wanted : Option Int) : Work (List Record) :=
  Work.degrade .openAq "OpenAQAdapter._sensor_records" [] do
    let results ← latestResults pages s!"sensors/{sensorId}/{endpoint}" parameters wanted
    Work.lift (results.mapM readingRecord)

/-- The canonical key of a sensor, from the sensors its location lists. -/
def lookUpKey (hasKey : Bool) (stationId sensorId : String) : Work String := do
  let listed ← parameters hasKey stationId
  match listed.find? fun parameter => parameter.id = sensorId with
  | some parameter => Work.lift parameter.canonicalKey
  | none => do
    note .warning s!"OpenAQ sensor {sensorId} not listed for location {stationId}"
    pure CanonicalKey.unknown

/-- What a request says of the oldest reading wanted. -/
def ageParameters (now : Moment) (limits : Limits) : Except Failure (List (String × Json)) :=
  match limits.maxAgeDays with
  | none => .ok []
  | some days => do pure [("datetime_from", .text (← now.daysBefore days).queryText)]

/-- The measurements of an endpoint; if there are none, a note says so. -/
def usable (now : Moment) (pages : Nat) (query : Query) (key : String)
    (parameters : List (String × Json)) (endpoint : String) : Work (List Measurement) := do
  let records ← records pages query.parameterId endpoint parameters query.limits.maxCount
  let measurements ← Work.lift
    (Measurement.ofRecords ⟨query.stationId, key, name⟩ now query.limits none records)
  if measurements.isEmpty then
    note .debug s!"No usable OpenAQ readings for sensor {query.parameterId} from {endpoint}"
  pure measurements

def measurements (now : Moment) (hasKey : Bool) (pages : Nat) (query : Query) :
    Work (List Measurement) :=
  withKey hasKey do
    let key ← match query.parameterKey with
      | some key => pure key
      | none => lookUpKey hasKey query.stationId query.parameterId
    let parameters ← Work.lift (ageParameters now query.limits)
    let live ← usable now pages query key parameters "measurements"
    if live.isEmpty then usable now pages query key parameters "hours" else pure live

/-- OpenAQ as a source, which reads at most so many pages of a listing. -/
def source (now : Moment) (hasKey : Bool) (pages : Nat) : Source Plan where
  name := name
  stations := stations hasKey pages
  parameters := parameters hasKey
  measurements := measurements now hasKey pages

end AirQuality.OpenAq
