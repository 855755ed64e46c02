import AirQuality.Region
import AirQuality.Source
import AirQuality.Store

/-!
# Snapshots

A snapshot is everything a source reports at one time.  It is collected as a whole before any of
it is stored, so a source that fails leaves the store as it was.
-/

namespace AirQuality.Store

open Time (Moment)

structure Snapshot where
  stations : List StationRecord
  parameters : List ParameterRecord
  measurements : List MeasurementRecord

namespace Snapshot

def empty : Snapshot := ⟨[], [], []⟩

def append (first second : Snapshot) : Snapshot where
  stations := first.stations ++ second.stations
  parameters := first.parameters ++ second.parameters
  measurements := first.measurements ++ second.measurements

def join : List Snapshot → Snapshot := List.foldr append empty

/-- Whether a station is in a region, if there is one. -/
def isWanted (region : Option Region) (station : Station) : Except Failure Bool :=
  match region with
  | none => .ok true
  | some region => do
    if ← station.position.isValid then region.holds station.position else pure false

/-- The stations of a listing that are in a region. -/
def wanted (region : Option Region) (stations : List Station) : Except Failure (List Station) :=
  stations.filterM (isWanted region)

variable {m : Type → Type} [Monad m] [Watched m]

/-- A parameter with its measurements. -/
def ofParameter (now : Moment) (source : Source m) (limits : Limits) (station : Station)
    (parameter : Parameter) : ExceptT Failure m Snapshot := do
  let record ← Watched.lift (ParameterRecord.ofParameter now station.id parameter)
  let measurements ←
    source.measurements ⟨station.id, parameter.id, limits, some record.canonicalKey⟩
  let rows ← Watched.lift
    (measurements.mapM (MeasurementRecord.ofMeasurement now parameter.id))
  pure ⟨[], [record], rows⟩

/-- A station with its parameters and their measurements. -/
def ofStation (now : Moment) (source : Source m) (limits : Limits) (station : Station) :
    ExceptT Failure m Snapshot := do
  let parameters ← source.parameters station.id
  let parts ← parameters.mapM (ofParameter now source limits station)
  pure (append ⟨[StationRecord.ofStation now station], [], []⟩ (join parts))

/-- Everything a source reports, or reports in a region. -/
def collect (now : Moment) (source : Source m) (region : Option Region) (limits : Limits) :
    ExceptT Failure m Snapshot := do
  let stations ← source.stations
  let stations ← Watched.lift (wanted region stations)
  let parts ← stations.mapM (ofStation now source limits)
  pure (join parts)

/-- How many records of each kind a snapshot has. -/
structure Counts where
  stations : Nat
  parameters : Nat
  measurements : Nat
deriving DecidableEq

def Counts.toJson (counts : Counts) : Json :=
  .object [("stations", .int counts.stations), ("parameters", .int counts.parameters),
    ("measurements", .int counts.measurements)]

/-- Stores a snapshot: its stations, then its parameters, then its measurements. -/
def store (now : Moment) (snapshot : Snapshot) : Storing Counts := do
  let stations ← saveAll now snapshot.stations
  let parameters ← saveAll now snapshot.parameters
  let measurements ← saveAll now snapshot.measurements
  pure ⟨stations, parameters, measurements⟩

def storedText (source : Source m) (counts : Counts) : String :=
  s!"Snapshot of {source.name}: {counts.toJson.quoted}"

/-- Collects what a source reports and stores it. -/
def take (now : Moment) (source : Source m) (region : Option Region) (limits : Limits)
    (kept : Store) : m (Except Failure Counts × Store) := do
  match ← (collect now source region limits).run with
  | .error failure => pure (.error failure, kept)
  | .ok snapshot =>
    let (outcome, kept) := snapshot.store now kept
    match outcome with
    | .ok counts => Watched.info .storage (storedText source counts)
    | .error _ => pure ()
    pure (outcome, kept)

end Snapshot

end AirQuality.Store
