import AirQuality.Aggregation
import AirQuality.Region.File
import AirQuality.Registry

/-!
# The service

A caller names a region and, if it likes, sources and limits, and gets the report of the region.
What it leaves out comes from the settings.  A report without any data is a failure.  The same
is offered as a response with a status, which tells a caller's mistakes from a day without data.
-/

namespace AirQuality.Service

open Decimal (Number)

/-- What a caller asks for. -/
structure Order where
  region : String
  /-- The sources to ask; none for all of them. -/
  sources : Option (List String)
  maxCount : Option Int
  maxAgeDays : Option Number

/-- Reads an order, in which a single source may stand for a list of them. -/
def Order.ofJson (value : Json) : Order where
  region := value.textAt "region"
  sources := match value.get "sources" with
    | .null => none
    | .text name => some [name]
    | names => some (names.asList.map Json.asText)
  maxCount := value.int? "max_count"
  maxAgeDays := value.number? "max_age_days"

/-- The table of regions that settings name. -/
def regionTable (files : (path : String) → TextFile) (settings : Settings) :
    Logged (List Region) :=
  match settings.regionTable? with
  | some path => Region.load (files path)
  | none => pure Region.voivodeships

/-- The limits of an order; what it leaves out comes from the settings. -/
def limits (settings : Settings) (order : Order) : Limits where
  maxCount := some (order.maxCount.getD settings.maxMeasurements)
  maxAgeDays := some (order.maxAgeDays.getD settings.maxAgeDays)

variable {m : Type → Type} [Monad m] [Watched m]

/-- A report that has data. -/
def nonempty (report : Report) : Except Failure Report :=
  if report.isEmpty then .error (.nothingAggregated report.region.name) else .ok report

/-- The report an order asks for, with settings that may have turned out unreadable. -/
def aggregate (files : (path : String) → TextFile) (settings : Except Failure Settings)
    (registry : Registry (Source m)) (order : Order) : ExceptT Failure m Report :=
  Watched.trace .service "aggregate" do
    let settings ← Watched.lift settings
    let table ← Watched.ofLogged (regionTable files settings)
    let region ← Watched.lift (Region.find order.region table)
    let sources ← Watched.ofLogged (registry.createAdapters order.sources settings)
    let report ← Aggregation.report ⟨limits settings order, settings.maxWorkers⟩ sources region
    Watched.lift (nonempty report)

/-! ### Responses -/

structure Response where
  status : Nat
  body : Json

def errorBody (failure : Failure) : Json := .object [("error", .text failure.message)]

/-- The response to an outcome: 200 with the report, 500 if there is no data, and 400 if the
caller can mend the failure. -/
def respond (outcome : Except Failure Report) : Except Failure Response :=
  match outcome with
  | .ok report => .ok ⟨200, report.toJson⟩
  | .error (.nothingAggregated region) => .ok ⟨500, errorBody (.nothingAggregated region)⟩
  | .error failure =>
    if failure.isClientError then .ok ⟨400, errorBody failure⟩ else .error failure

/-- The response to an order. -/
def response (files : (path : String) → TextFile) (settings : Except Failure Settings)
    (registry : Registry (Source m)) (order : Order) : ExceptT Failure m Response :=
  ExceptT.mk do
    let outcome ← (aggregate files settings registry order).run
    pure (respond outcome)

end AirQuality.Service
