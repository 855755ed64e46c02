import AirQuality.Proofs.Guard.Gios
import AirQuality.Proofs.LiveFirst

/-!
# The feeds of GIOS

GIOS has two endpoints for the readings of a sensor, each of which is read with one request.
-/

namespace AirQuality.Gios

open Outcome
open Time (Moment)

variable {τ : Type} {fetcher : Fetcher τ} {remote : Remote τ} {now : Moment} {query : Query}
  {key : String} {earlier later : List Request} {measurements : List Measurement}

def feedRequest (sensorId : String) : Feed → Request
  | .live => ⟨s!"{base}/data/getData/{sensorId}", none⟩
  | .archive =>
    ⟨s!"{base}/archivalData/getDataBySensor/{sensorId}", some [("dayNumber", .int 1)]⟩

def feeds (fetcher : Fetcher τ) (remote : Remote τ) (query : Query) (key : String) : Feeds :=
  .ofRequests fetcher remote ⟨query.stationId, key, name⟩ (feedRequest query.parameterId)
    (fun _ => records) fun _ => none

theorem areApart_feeds : (feeds fetcher remote query key).AreApart := by
  apply Feeds.areApart_ofRequests
  intro hsame
  cases congrArg Request.parameters hsame

/-- The work that reads a feed. -/
def feedRecords (sensorId : String) : Feed → Work (List Record)
  | .live => liveRecords sensorId
  | .archive => archivalRecords sensorId

theorem reads_of_comesTo {feed : Feed} {raw : List Record}
    (hcomes : (feedRecords query.parameterId feed).ComesTo (fetcher.Obtains remote) earlier
      (.ok raw) later) : (feeds fetcher remote query key).reads feed earlier raw later := by
  cases feed with
  | live => exact Feeds.reads_of_degrade hcomes
  | archive => exact Feeds.reads_of_degrade hcomes

theorem gives_of_usable {feed : Feed} {endpoint : String}
    (hcomes : (usable now query key endpoint (feedRecords query.parameterId feed)).ComesTo
      (fetcher.Obtains remote) earlier (.ok measurements) later) :
    (feeds fetcher remote query key).Gives now query.limits feed earlier measurements later :=
  Feeds.gives_of_comesTo reads_of_comesTo hcomes

theorem liveFirst_of_measurements (hkey : query.parameterKey = some key)
    (hcomes : (Gios.measurements now query).ComesTo (fetcher.Obtains remote) earlier
      (.ok measurements) later) :
    (feeds fetcher remote query key).LiveFirst now query.limits earlier measurements later := by
  unfold Gios.measurements at hcomes
  rw [hkey] at hcomes
  exact Feeds.liveFirst_of_comesTo gives_of_usable gives_of_usable hcomes

section

variable [Add τ] [Sub τ] [OfNat τ 0] [LT τ] [LE τ] [DecidableLT τ] [DecidableLE τ] [TimeText τ]

theorem isLiveFirst_source (fetcher : Fetcher τ) {oldest : Option Moment}
    (haware : now.isNaive = false) (hcutoff : Reading.cutoff now query.limits = .ok oldest)
    (hkey : query.parameterKey = some key)
    (hregular : ∀ raw, MayRead remote query.parameterId raw → ∀ record ∈ raw, record.IsRegular)
    (pages : Nat) :
    (source now pages).IsLiveFirst fetcher remote now none query
      (feeds fetcher remote query key) := by
  have hguarded := (isGuarded_source fetcher remote haware pages).measurements query oldest hcutoff
  refine Source.isLiveFirst_of_comesTo hguarded (Query.not_escape hkey hcutoff ?_) areApart_feeds
    (reraises_measurements now query) (liveFirst_of_measurements hkey)
  rintro last outcome ⟨-, raw, rfl, hread⟩
  exact ⟨raw, rfl, hregular raw hread⟩

end

end AirQuality.Gios
