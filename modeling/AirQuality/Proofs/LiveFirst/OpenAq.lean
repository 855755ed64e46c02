import AirQuality.Proofs.Guard.OpenAq
import AirQuality.Proofs.LiveFirst
import AirQuality.Proofs.OpenAq.NewestMeasurements

/-!
# The feeds of OpenAQ

OpenAQ has two endpoints for the readings of a sensor, each of which is read page by page: whatever
its pages say, only pages of that endpoint are asked for.
-/

namespace AirQuality.OpenAq

open Outcome
open Time (Moment)

variable {τ : Type} {fetcher : Fetcher τ} {remote : Remote τ} {now : Moment} {query : Query}
  {key : String} {earlier later : List Request} {measurements : List Measurement}

def feedName : Feed → String
  | .live => "measurements"
  | .archive => "hours"

def feedEndpoint (sensorId : String) (feed : Feed) : String :=
  sensorEndpoint sensorId (feedName feed)

/-- A request for a page of an endpoint. -/
def IsPage (endpoint : String) (parameters : List (String × Json)) (request : Request) : Prop :=
  ∃ number, request = pageRequest endpoint parameters number

/-- The feeds of a sensor.  A listing that fails on any page counts as no records. -/
def feeds (fetcher : Fetcher τ) (remote : Remote τ) (pages : Nat) (query : Query) (key : String)
    (parameters : List (String × Json)) : Feeds where
  tag := ⟨query.stationId, key, name⟩
  asks feed := IsPage (feedEndpoint query.parameterId feed) parameters
  reads feed earlier raw later := ∃ outcome,
    (latestResults pages (feedEndpoint query.parameterId feed) parameters
        query.limits.maxCount).ComesTo (fetcher.Obtains remote) earlier outcome later ∧
      raw = listed (outcome >>= fun results => results.mapM readingRecord)
  last _ := none

section

variable {endpoint : String} {parameters : List (String × Json)}

theorem asksOnly_page (number : Int) :
    (page endpoint parameters number).AsksOnly (IsPage endpoint parameters) :=
  (Work.asksOnly_fetch ⟨number, rfl⟩).bind fun _ => Work.asksOnly_pure _

theorem asksOnly_count {allowed : Request → Prop} (value : Json) (default : Int) :
    (count value default).AsksOnly allowed := by
  unfold count
  split
  case h_1 => exact Work.asksOnly_pure _
  case h_2 number entry hread =>
    exact (Work.asksOnly_note entry.level .openAq entry.text).bind fun _ => Work.asksOnly_pure _

theorem asksOnly_pagesFrom {β : Type} (read : Json → Except Failure β) (pages : Nat)
    (number : Int) :
    (pagesFrom endpoint parameters read pages number).AsksOnly (IsPage endpoint parameters) := by
  induction pages generalizing number with
  | zero => exact Work.asksOnly_unfinished
  | succ pages ih =>
      unfold pagesFrom
      refine (asksOnly_page number).bind fun payload => ?_
      refine (Work.asksOnly_lift _).bind fun results => ?_
      split
      case isTrue => exact Work.asksOnly_pure _
      case isFalse =>
        refine (Work.asksOnly_lift _).bind fun items => ?_
        refine (Work.asksOnly_lift _).bind fun about => ?_
        refine (Work.asksOnly_lift _).bind fun found => ?_
        refine (asksOnly_count _ _).bind fun total => ?_
        refine (Work.asksOnly_lift _).bind fun limit => ?_
        refine (asksOnly_count _ _).bind fun size => ?_
        refine Work.AsksOnly.bind (Work.asksOnly_note _ _ _) fun _ => ?_
        split
        case isTrue => exact Work.asksOnly_pure _
        case isFalse => exact (ih (number + 1)).bind fun more => Work.asksOnly_pure _

theorem asksOnly_latestResults (pages : Nat) (wanted : Option Int) :
    (latestResults pages endpoint parameters wanted).AsksOnly (IsPage endpoint parameters) := by
  unfold latestResults
  refine (asksOnly_page 1).bind fun payload => ?_
  refine (Work.asksOnly_lift _).bind fun results => ?_
  refine (Work.asksOnly_lift _).bind fun about => ?_
  refine (Work.asksOnly_lift _).bind fun total => ?_
  refine (Work.asksOnly_lift _).bind fun limit => ?_
  refine (asksOnly_count _ _).bind fun size => ?_
  split
  case isTrue => exact Work.asksOnly_lift _
  case isFalse =>
    split
    case h_1 =>
      dsimp only
      split
      case isTrue => exact Work.asksOnly_lift _
      case isFalse =>
        refine Work.AsksOnly.bind (Work.asksOnly_note _ _ _) fun _ => ?_
        refine (Work.asksOnly_mapM (fun number => ?_) _).bind fun tail => ?_
        · exact (asksOnly_page number).bind fun payload => Work.asksOnly_lift _
        · split
          case isTrue => exact Work.asksOnly_lift _
          case isFalse => exact Work.asksOnly_pure _
    case h_2 => exact (asksOnly_pagesFrom _ _ _).bind fun more => Work.asksOnly_lift _

/-- Reading an endpoint asks for some of its pages, and for one at least. -/
theorem asks_of_latestResults {pages : Nat} {wanted : Option Int}
    {outcome : Except Failure (List Json)}
    (hcomes : (latestResults pages endpoint parameters wanted).ComesTo (fetcher.Obtains remote)
      earlier outcome later) :
    ∃ asked ≠ [], later = earlier ++ asked ∧
      ∀ request ∈ asked, IsPage endpoint parameters request := by
  have hasks : (latestResults pages endpoint parameters wanted).AsksOnly
      (IsPage endpoint parameters) := asksOnly_latestResults pages wanted
  obtain ⟨next, hrun⟩ : ∃ next, (latestResults pages endpoint parameters wanted).run =
      .request (pageRequest endpoint parameters 1) next := ⟨_, rfl⟩
  unfold Work.ComesTo at hcomes
  unfold Work.AsksOnly at hasks
  rw [hrun] at hcomes hasks
  obtain ⟨reply, between, hobtains, hrest⟩ := hcomes
  obtain ⟨first, hne, rfl, hfirst⟩ := hobtains.ne_nil
  obtain ⟨others, rfl, hothers⟩ :=
    hrest.extends (fun hobtains hallowed => hobtains.extends hallowed) (hasks.2 reply)
  refine ⟨first ++ others, by simp [hne], List.append_assoc .., ?_⟩
  refine List.forall_mem_append.mpr ⟨fun request hrequest => ?_, hothers⟩
  rw [hfirst request hrequest]
  exact ⟨1, rfl⟩

end

theorem areApart_feeds {pages : Nat} {parameters : List (String × Json)} :
    (feeds fetcher remote pages query key parameters).AreApart where
  asks := by
    rintro feed earlier raw later ⟨outcome, hcomes, -⟩
    exact asks_of_latestResults hcomes
  settled := by
    rintro feed earlier raw later other others ⟨outcome, hcomes, rfl⟩ ⟨second, hsecond, rfl⟩
    obtain ⟨rfl, rfl⟩ := hcomes.unique (fun hfirst hagain => hfirst.unique hagain) hsecond
    exact ⟨rfl, rfl⟩
  disjoint := by
    rintro request ⟨number, rfl⟩ ⟨other, hsame⟩
    have hurl := congrArg Request.url hsame
    change base ++ "/" ++ ("sensors/" ++ query.parameterId ++ "/" ++ "measurements") =
      base ++ "/" ++ ("sensors/" ++ query.parameterId ++ "/" ++ "hours") at hurl
    simp only [String.append_right_inj] at hurl
    exact absurd hurl (by decide)

theorem gives_of_usable {pages : Nat} {parameters : List (String × Json)} {feed : Feed}
    (hcomes : (usable now pages query key parameters (feedName feed)).ComesTo
      (fetcher.Obtains remote) earlier (.ok measurements) later) :
    (feeds fetcher remote pages query key parameters).Gives now query.limits feed earlier
      measurements later :=
  Feeds.gives_of_comesTo (fun hread => Work.exists_of_comesTo_degrade hread) hcomes

theorem liveFirst_of_measurements {pages : Nat} {parameters : List (String × Json)}
    (hkey : query.parameterKey = some key)
    (hparameters : ageParameters now query.limits = .ok parameters)
    (hcomes : (OpenAq.measurements now true pages query).ComesTo (fetcher.Obtains remote) earlier
      (.ok measurements) later) :
    (feeds fetcher remote pages query key parameters).LiveFirst now query.limits earlier
      measurements later := by
  unfold OpenAq.measurements at hcomes
  rw [hkey, hparameters] at hcomes
  exact Feeds.liveFirst_of_comesTo gives_of_usable gives_of_usable hcomes

section

variable [Add τ] [Sub τ] [OfNat τ 0] [LT τ] [LE τ] [DecidableLT τ] [DecidableLE τ] [TimeText τ]

theorem exists_isLiveFirst_source (fetcher : Fetcher τ) {oldest : Option Moment}
    (haware : now.isNaive = false) (hcutoff : Reading.cutoff now query.limits = .ok oldest)
    (hkey : query.parameterKey = some key)
    (hregular : ∀ raw, MayRead remote now query raw → ∀ record ∈ raw, record.IsRegular)
    (pages : Nat) :
    ∃ parameters, ageParameters now query.limits = .ok parameters ∧
      (source now true pages).IsLiveFirst fetcher remote now (some pages) query
        (feeds fetcher remote pages query key parameters) := by
  obtain ⟨parameters, hparameters⟩ := exists_ageParameters hcutoff
  have hguarded :=
    (isGuarded_source fetcher remote haware true pages).measurements query oldest hcutoff
  refine ⟨parameters, hparameters, Source.isLiveFirst_of_comesTo hguarded
    (Query.not_escape hkey hcutoff ?_) areApart_feeds (reraises_measurements now true pages query)
    (liveFirst_of_measurements hkey hparameters)⟩
  rintro last outcome ⟨-, raw, rfl, hread⟩
  exact ⟨raw, rfl, hregular raw hread⟩

end

end AirQuality.OpenAq
