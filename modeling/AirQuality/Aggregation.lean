import AirQuality.Collection
import AirQuality.Report

/-!
# Aggregation

The report of a region from several sources: each source is collected from on its own, in
order, and the contributions of all of them are summarised together.
-/

namespace AirQuality.Aggregation

variable {m : Type → Type} [Monad m] [Watched m]

/-- Who takes part in an aggregation, and what is asked of them. -/
structure Settings where
  limits : Limits
  /-- The most sources asked at once; none or zero for all of them. -/
  maxWorkers : Option Int

def Settings.workers (settings : Settings) (count : Nat) : Int :=
  match settings.maxWorkers with
  | none | some 0 => count
  | some workers => workers

/-- What all sources contribute, in their order. -/
def collect (region : Region) (limits : Limits) : List (Source m) → m (List Contribution)
  | [] => pure []
  | source :: rest => do
    let first ← Collection.ofSource region limits source
    let others ← collect region limits rest
    pure (first.contributions ++ others)

def startText (region : Region) (count : Nat) (workers : Int) : String :=
  s!"Aggregating {region.name} from {count} sources ({workers} workers)"

def endText (region : Region) (summaries : List Summary) (contributions : List Contribution) :
    String :=
  s!"Aggregated {summaries.length} parameters for {region.name} " ++
    s!"from {contributions.length} station parameters"

/-- The report of a region; without sources it is empty. -/
def report (settings : Settings) (sources : List (Source m)) (region : Region) :
    ExceptT Failure m Report := do
  if sources.isEmpty then pure ⟨region, []⟩
  else
    let workers := settings.workers sources.length
    Watched.info .aggregation (startText region sources.length workers)
    if workers < 0 then Watched.lift (.error (.argument .tooFewWorkers))
    else
      let contributions ← ExceptT.lift (collect region settings.limits sources)
      let summaries ← Watched.lift (Summary.ofContributions contributions)
      Watched.info .aggregation (endText region summaries contributions)
      pure ⟨region, summaries⟩

end AirQuality.Aggregation
