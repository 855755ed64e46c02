import AirQuality.Contribution
import AirQuality.Region
import AirQuality.Watched

/-!
# Collecting from a source

A source is asked for its stations, each station in the region for its parameters, and each
parameter for its measurements.  What fails contributes nothing and is passed over.  A
cancellation cuts the collection short; what was collected until then is kept.
-/

namespace AirQuality

structure Collection where
  contributions : List Contribution
  /-- Whether a cancellation cut the collection short. -/
  isCut : Bool

namespace Collection

def nothing : Collection := ⟨[], false⟩

def cut : Collection := ⟨[], true⟩

/-- A contribution, unless it has no measurements. -/
def ofContribution (contribution : Contribution) : Collection :=
  ⟨if contribution.measurements.isEmpty then [] else [contribution], false⟩

/-- A collection followed by another. -/
def followedBy (first second : Collection) : Collection :=
  ⟨first.contributions ++ second.contributions, second.isCut⟩

variable {m : Type → Type} [Monad m] [Watched m]

/-- Visits items in turn until a visit is cut short. -/
def inTurn {α : Type} (visit : α → m Collection) : List α → m Collection
  | [] => pure nothing
  | item :: rest => do
    let first ← visit item
    if first.isCut then pure first
    else
      let others ← inTurn visit rest
      pure (first.followedBy others)

/-- Goes on with the outcome of a call.  A cancelled call cuts the collection short, and another
failure is noted and contributes nothing. -/
def goOn {α : Type} (failed : Failure → String) (next : α → m Collection)
    (outcome : Except Failure α) : m Collection :=
  match outcome with
  | .ok value => next value
  | .error failure =>
    if failure.isCancelled then pure cut
    else do
      Watched.warn .aggregation (failed failure)
      pure nothing

/-- A visit that does not start once the work is cancelled. -/
def unlessCancelled (visit : m Collection) : m Collection := do
  if ← Watched.isCancelled then pure cut else visit

def parameterFailed (source : Source m) (station : Station) (parameter : Parameter)
    (failure : Failure) : String :=
  s!"{source.name}: station {station.id} parameter {parameter.id} failed: {failure.message}"

def stationFailed (source : Source m) (station : Station) (failure : Failure) : String :=
  s!"{source.name}: station {station.id} failed: {failure.message}"

/-- The measurements of a parameter, which are asked for under its canonical key. -/
def measurementsOf (source : Source m) (limits : Limits) (station : Station)
    (parameter : Parameter) : ExceptT Failure m (List Measurement) := do
  let key ← Watched.lift parameter.canonicalKey
  source.measurements ⟨station.id, parameter.id, limits, some key⟩

def ofParameter (source : Source m) (limits : Limits) (station : Station)
    (parameter : Parameter) : m Collection :=
  unlessCancelled do
    let outcome ← (measurementsOf source limits station parameter).run
    goOn (parameterFailed source station parameter)
      (fun measurements => pure (ofContribution ⟨station, parameter, measurements⟩)) outcome

def ofStation (source : Source m) (limits : Limits) (station : Station) : m Collection :=
  unlessCancelled do
    let outcome ← (source.parameters station.id).run
    goOn (stationFailed source station)
      (fun parameters => inTurn (ofParameter source limits station) parameters) outcome

/-- Whether a station is in a region; one whose position is not on the globe is in none. -/
def isInside (region : Region) (station : Station) : ExceptT Failure m Bool := do
  if ← Watched.lift station.position.isValid then
    Watched.lift (region.holds station.position)
  else
    Watched.debug .aggregation s!"Skipping station {station.id} with invalid coordinates"
    pure false

/-- The stations in a region. -/
def inside (region : Region) : List Station → ExceptT Failure m (List Station)
  | [] => pure []
  | station :: rest => do
    let isHere ← isInside region station
    let others ← inside region rest
    pure (if isHere then station :: others else others)

/-- The stations of a source that are in a region. -/
def stationsOf (source : Source m) (region : Region) : ExceptT Failure m (List Station) := do
  let stations ← source.stations
  let here ← inside region stations
  Watched.debug .aggregation
    s!"{source.name}: {here.length} of {stations.length} stations in {region.name}"
  pure here

def cutText (source : Source m) (collection : Collection) : String :=
  s!"{source.name}: cancelled, keeping {collection.contributions.length} " ++
    "station parameters collected so far"

/-- Everything a source contributes to a region. -/
def ofSource (region : Region) (limits : Limits) (source : Source m) : m Collection := do
  let outcome ← (stationsOf source region).run
  let collection ← goOn
    (fun failure => s!"{source.name}: source failed, skipping it: {failure.message}")
    (fun stations => inTurn (ofStation source limits) stations) outcome
  if collection.isCut then Watched.warn .aggregation (cutText source collection)
  pure collection

end Collection

end AirQuality
