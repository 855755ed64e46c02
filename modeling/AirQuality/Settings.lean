import AirQuality.Decimal.Numeral
import AirQuality.Json.Loose
import AirQuality.Text.Case

/-!
# Settings

Settings come from named texts, as an environment holds them.  A name that is missing or blank
has its default.  Names are read in a fixed order, and the first text that does not stand for
a number is the one that is refused.
-/

namespace AirQuality

open Decimal (Number)

/-- How often one provider may be asked, in a unit of time `τ`. -/
structure FetchPolicy (τ : Type) where
  minInterval : τ
  maxAttempts : Int
  retryDelay : τ
  timeout : Number
deriving DecidableEq

def FetchPolicy.toJson (policy : FetchPolicy Float) : Json :=
  .object [("min_interval", .float policy.minInterval), ("max_attempts", .int policy.maxAttempts),
    ("retry_delay", .float policy.retryDelay), ("timeout", .ofNumber policy.timeout)]

/-- The providers known from the start, in the order in which they are listed. -/
def builtinSources : List String := ["GIOS", "OPENAQ", "OPEN_METEO"]

structure Settings where
  openAqKey : Option String
  maxMeasurements : Int
  maxAgeDays : Number
  maxWorkers : Option Int
  requestTimeout : Number
  regionTable : Option String
  openMeteoStations : Option String
  policies : List (String × FetchPolicy Float)

namespace Settings

def defaultRequestDelay : Float := 1

def defaultMaxRetries : Int := 3

def defaultRetryDelay : Float := 5

def defaultRequestTimeout : Number := .real 30

/-- Reads a policy; what is left out is as without settings. -/
def policyOfJson (value : Json) : FetchPolicy Float where
  minInterval := value.getOr "min_interval" Json.asFloat defaultRequestDelay
  maxAttempts := value.getOr "max_attempts" Json.asInt defaultMaxRetries
  retryDelay := value.getOr "retry_delay" Json.asFloat defaultRetryDelay
  timeout := value.getOr "timeout" Json.asNumber defaultRequestTimeout

/-- Settings without anything set. -/
def defaults : Settings where
  openAqKey := none
  maxMeasurements := 100
  maxAgeDays := .real 30
  maxWorkers := none
  requestTimeout := defaultRequestTimeout
  regionTable := none
  openMeteoStations := none
  policies := []

/-- The policy for a provider, by its name in any capitals. -/
def policyFor (settings : Settings) (source : String) : FetchPolicy Float :=
  (settings.policies.lookup (String.ofList (Text.upper source.toList))).getD
    ⟨defaultRequestDelay, defaultMaxRetries, defaultRetryDelay, settings.requestTimeout⟩

/-- The key for OpenAQ; an empty one counts as left out, as it does for the paths below. -/
def openAqKey? (settings : Settings) : Option String := settings.openAqKey.filter (· ≠ "")

/-- The path of the table of regions. -/
def regionTable? (settings : Settings) : Option String := settings.regionTable.filter (· ≠ "")

/-- The path of the points for Open-Meteo. -/
def openMeteoStations? (settings : Settings) : Option String :=
  settings.openMeteoStations.filter (· ≠ "")

def fields (settings : Settings) : List (String × Json) :=
  [("openaq_api_key", .ofOption .text settings.openAqKey),
    ("max_measurements", .int settings.maxMeasurements),
    ("max_age_days", .ofNumber settings.maxAgeDays),
    ("max_workers", .ofOption .int settings.maxWorkers),
    ("request_timeout", .ofNumber settings.requestTimeout),
    ("region_table", .ofOption .text settings.regionTable),
    ("openmeteo_stations", .ofOption .text settings.openMeteoStations),
    ("policies", .object (settings.policies.map fun (name, policy) => (name, policy.toJson)))]

/-! ### Reading -/

/-- Names with their texts. -/
abbrev Environment := List (String × String)

/-- The text under a name unless it is blank. -/
def written? (environment : Environment) (name : String) : Option String :=
  match environment.lookup name with
  | some raw => if Text.isAllBlank raw.toList then none else some raw
  | none => none

/-- The text under a name unless it is empty. -/
def textSetting (environment : Environment) (name : String) : Option String :=
  (environment.lookup name).filter (· ≠ "")

def integerSetting? (environment : Environment) (name : String) : Except Failure (Option Int) :=
  match written? environment name with
  | none => .ok none
  | some raw =>
    match Decimal.permissiveStyle.readInt? raw.toList with
    | some value => .ok (some value)
    | none => .error (.argument (.notAnInteger name raw))

def integerSetting (environment : Environment) (name : String) (default : Int) :
    Except Failure Int := do
  pure ((← integerSetting? environment name).getD default)

def numberSetting (environment : Environment) (name : String) (default : Float) :
    Except Failure Float :=
  match written? environment name with
  | none => .ok default
  | some raw =>
    match Decimal.permissiveStyle.readFloat? raw.toList with
    | some value => .ok value
    | none => .error (.argument (.notANumber name raw))

def policySetting (environment : Environment) (timeout : Float) (source : String) :
    Except Failure (FetchPolicy Float) := do
  let minInterval ←
    numberSetting environment s!"ATMO_{source}_REQUEST_DELAY" defaultRequestDelay
  let maxAttempts ← integerSetting environment s!"ATMO_{source}_MAX_RETRIES" defaultMaxRetries
  let retryDelay ← numberSetting environment s!"ATMO_{source}_RETRY_DELAY" defaultRetryDelay
  pure ⟨minInterval, maxAttempts, retryDelay, .real timeout⟩

def ofEnvironment (environment : Environment) : Except Failure Settings := do
  let timeout ← numberSetting environment "ATMO_REQUEST_TIMEOUT" 30
  let policies ← builtinSources.mapM fun source => do
    pure (source, ← policySetting environment timeout source)
  let maxMeasurements ←
    integerSetting environment "ATMO_MAX_MEASUREMENTS" defaults.maxMeasurements
  let maxAgeDays ← numberSetting environment "ATMO_MAX_AGE_DAYS" 30
  let maxWorkers ← integerSetting? environment "ATMO_MAX_WORKERS"
  pure {
    openAqKey := textSetting environment "OPENAQ_API_KEY"
    maxMeasurements := maxMeasurements
    maxAgeDays := .real maxAgeDays
    maxWorkers := maxWorkers
    requestTimeout := .real timeout
    regionTable := textSetting environment "ATMO_REGION_TABLE"
    openMeteoStations := textSetting environment "ATMO_OPENMETEO_STATIONS"
    policies := policies }

end Settings

end AirQuality
