import AirQuality.Proofs.Guard.OpenMeteo
import AirQuality.Proofs.LiveFirst

/-!
# The feeds of Open-Meteo

Open-Meteo has one endpoint.  Its current block is asked for first, and then the hourly series,
whose readings count up to the present.
-/

namespace AirQuality.OpenMeteo

open Outcome
open Time (Moment)

variable {τ : Type} {fetcher : Fetcher τ} {remote : Remote τ} {now : Moment} {query : Query}
  {key : String} {earlier later : List Request} {measurements : List Measurement}

def feedRequest (point : Station) (id : String) (days : Int) : Feed → Request
  | .live => blockRequest point id "current" none
  | .archive => blockRequest point id "hourly" (some days)

def feedRecords (id : String) : Feed → Json → Except Failure (List Record)
  | .live => fun payload => currentRecords payload id
  | .archive => fun payload => hourlyRecords payload id

/-- The key that a query with a key is answered under; an empty one gives way to that of the
variable. -/
def keyOf (quantity : Variable) (key : String) : String :=
  if key = "" then quantity.canonicalKey else key

def feeds (fetcher : Fetcher τ) (remote : Remote τ) (now : Moment) (query : Query) (key : String)
    (point : Station) (quantity : Variable) (days : Int) : Feeds :=
  .ofRequests fetcher remote ⟨query.stationId, keyOf quantity key, name⟩
    (feedRequest point quantity.id days) (feedRecords quantity.id) fun
      | .live => none
      | .archive => some now

variable {point : Station} {quantity : Variable} {days : Int}

theorem areApart_feeds :
    (feeds fetcher remote now query key point quantity days).AreApart := by
  apply Feeds.areApart_ofRequests
  intro hsame
  have hparameters := congrArg Request.parameters hsame
  simp [feedRequest, blockRequest] at hparameters

/-- An empty payload, which stands for a reply that failed, has no records. -/
theorem feedRecords_empty (id : String) (feed : Feed) :
    feedRecords id feed (.object []) = .ok [] := by
  cases feed <;> rfl

theorem gives_of_comesTo {feed : Feed} {label : String} {pastDays : Option Int}
    (hrequest : blockRequest point quantity.id label pastDays =
      feedRequest point quantity.id days feed)
    (hcomes : Work.ComesTo (fetcher.Obtains remote) (do
      let shown ← payload point quantity.id label pastDays
      Work.lift do
        Measurement.ofRecords (feeds fetcher remote now query key point quantity days).tag now
          query.limits ((feeds fetcher remote now query key point quantity days).last feed)
          (← feedRecords quantity.id feed shown)) earlier (.ok measurements) later) :
    (feeds fetcher remote now query key point quantity days).Gives now query.limits feed earlier
      measurements later := by
  obtain ⟨shown, hshown, hmade⟩ := Work.comesTo_bind_lift.mp hcomes
  obtain ⟨result, hresult, hguarded⟩ := Work.comesTo_degrade.mp hshown
  obtain ⟨value, rfl, hread⟩ := bind_eq_ok hmade.symm
  obtain rfl := eq_of_degraded_eq_ok hguarded.symm
  obtain ⟨raw, hraw, hmade⟩ := bind_eq_ok hread
  refine ⟨raw, ⟨result, ?_, ?_⟩, hmade⟩
  · rw [← hrequest]
    exact Work.comesTo_fetch.mp hresult
  · cases result with
    | ok payload =>
        have hread : feedRecords quantity.id feed payload = .ok raw := hraw
        rw [ok_bind, hread]
        rfl
    | error failure =>
        have hread : feedRecords quantity.id feed (.object []) = .ok raw := hraw
        rw [feedRecords_empty] at hread
        exact (Except.ok.inj hread).symm

theorem liveFirst_of_measurementsAt (hkey : query.parameterKey = some key)
    (hdays : pastDays query.limits = .ok days)
    (hcomes : (measurementsAt now query point quantity).ComesTo (fetcher.Obtains remote) earlier
      (.ok measurements) later) :
    (feeds fetcher remote now query key point quantity days).LiveFirst now query.limits earlier
      measurements later := by
  have htag : (query.parameterKey.filter (· ≠ "")).getD quantity.canonicalKey =
      keyOf quantity key := by
    rw [hkey, Option.filter_some, keyOf]
    by_cases hempty : key = ""
    · simp [hempty]
    · simp [hempty]
  have hplan : measurementsAt now query point quantity = (do
      let live ← (do
        let shown ← payload point quantity.id "current" none
        Work.lift do
          Measurement.ofRecords ⟨query.stationId, keyOf quantity key, name⟩ now query.limits none
            (← feedRecords quantity.id .live shown))
      if live.isEmpty then (do
        let shown ← payload point quantity.id "hourly" (some days)
        Work.lift do
          Measurement.ofRecords ⟨query.stationId, keyOf quantity key, name⟩ now query.limits
            (some now) (← feedRecords quantity.id .archive shown))
      else pure live) := by
    unfold measurementsAt
    rw [htag, hdays, bind_assoc]
    rfl
  rw [hplan] at hcomes
  exact Feeds.liveFirst_of_comesTo (gives_of_comesTo rfl) (gives_of_comesTo rfl) hcomes

section

variable [Add τ] [Sub τ] [OfNat τ 0] [LT τ] [LE τ] [DecidableLT τ] [DecidableLE τ] [TimeText τ]

theorem exists_isLiveFirst_source (fetcher : Fetcher τ) {oldest : Option Moment}
    (haware : now.isNaive = false) (hcutoff : Reading.cutoff now query.limits = .ok oldest)
    (hkey : query.parameterKey = some key) {points : List Station} (offered : List Variable)
    (hpoint : ((distinctPoints points).find? fun point => point.id = query.stationId) = some point)
    (hquantity : find? query.parameterId = some quantity)
    (hregular : ∀ last outcome, MayRead remote now query.limits point quantity last outcome →
      ∃ raw, outcome = .ok raw ∧ ∀ record ∈ raw, record.IsRegular) :
    ∃ days, pastDays query.limits = .ok days ∧
      (source now points offered).IsLiveFirst fetcher remote now none query
        (feeds fetcher remote now query key point quantity days) := by
  obtain ⟨days, hdays⟩ := exists_pastDays hcutoff
  have hplan : (source now points offered).measurements query =
      measurementsAt now query point quantity := measurements_of_known now hpoint hquantity
  -- Only the point of the query is asked about, so nothing else may escape.
  have hguarded : Fetching.IsGuarded (Escape remote [point] now query) none
      (Work.perform (fetcher.fetch remote) ((source now points offered).measurements query)) := by
    rw [hplan]
    exact Work.isGuarded_of_ensures fun _ =>
      ensures_measurementsAt haware hcutoff List.mem_cons_self hquantity
  refine ⟨days, hdays, Source.isLiveFirst_of_comesTo hguarded (Query.not_escape hkey hcutoff ?_)
    areApart_feeds (reraises_measurements now _ query) fun hcomes => ?_⟩
  · rintro last outcome ⟨other, hother, found, hfound, hread⟩
    obtain rfl := List.mem_singleton.mp hother
    obtain rfl := Option.some.inj (hquantity.symm.trans hfound)
    exact hregular last outcome hread
  · rw [hplan] at hcomes
    exact liveFirst_of_measurementsAt hkey hdays hcomes

end

end AirQuality.OpenMeteo
