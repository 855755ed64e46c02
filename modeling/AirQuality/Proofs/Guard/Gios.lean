import AirQuality.Proofs.Guard
import AirQuality.Source.Gios

/-!
# What GIOS guards against

The stations, the sensors and the raw readings of GIOS are each read within one guard.  Outside it
are the canonical key of a sensor, which its name has to give, and the measurements made of raw
readings.
-/

namespace AirQuality.Gios

open Outcome
open Time (Moment)

variable {τ : Type} {fetcher : Fetcher τ} {remote : Remote τ} {budget : Nat}
  {escapes : Failure → Prop}

/-! ### What may come of replies -/

/-- The sensors that a payload lists. -/
def sensorsOf (payload : Json) : Except Failure (List Parameter) := do
  (← (← payload.fieldOrNull sensorsField).elementsOrNone).mapM sensor

/-- A provider may list a sensor for a station. -/
def MayList (remote : Remote τ) (stationId : String) (parameter : Parameter) : Prop :=
  ∃ payload listed, remote.Brings ⟨s!"{base}/station/sensors/{stationId}", none⟩ payload ∧
    sensorsOf payload = .ok listed ∧ parameter ∈ listed

/-- The two requests for the readings of a sensor. -/
def readingRequests (sensorId : String) : List Request :=
  [⟨s!"{base}/data/getData/{sensorId}", none⟩,
    ⟨s!"{base}/archivalData/getDataBySensor/{sensorId}", some [("dayNumber", .int 1)]⟩]

/-- A provider may bring the raw readings of a sensor. -/
def MayRead (remote : Remote τ) (sensorId : String) (raw : List Record) : Prop :=
  ∃ request ∈ readingRequests sensorId, ∃ payload, remote.Brings request payload ∧
    records payload = .ok raw

/-- What may escape from a call for measurements. -/
def Escape (remote : Remote τ) (now : Moment) (query : Query) : Failure → Prop :=
  query.Escape now (MayList remote query.stationId) fun last outcome =>
    last = none ∧ ∃ raw, outcome = .ok raw ∧ MayRead remote query.parameterId raw

/-! ### Listings -/

theorem ensures_readStations (records : List Json) :
    (readStations records).Ensures (fetcher.mayReply remote) budget (fun _ => True)
      fun _ => True := by
  induction records generalizing budget with
  | nil => exact Work.ensures_pure trivial
  | cons record rest ih =>
      unfold readStations
      apply Work.ensures_lift_bind
      · intro found hfound
        cases found with
        | some station => exact ih.bind fun _ _ _ _ => Work.ensures_pure trivial
        | none => exact Work.ensures_note_bind ih
      · exact fun _ _ => trivial

theorem ensures_stationsFrom {pages : Nat} (hbudget : budget ≤ pages) (page : Int) :
    (stationsFrom pages page).Ensures (fetcher.mayReply remote) budget (fun _ => True)
      fun _ => True := by
  induction pages generalizing budget page with
  | zero =>
      obtain rfl := Nat.le_zero.mp hbudget
      exact Work.ensures_unfinished
  | succ pages ih =>
      unfold stationsFrom
      refine Work.ensures_fetch_bind (fun payload hpayload => ?_) fun _ _ => trivial
      split
      case isTrue => exact Work.ensures_pure trivial
      case isFalse =>
        refine Work.ensures_lift_bind (fun records hrecords => ?_) fun _ _ => trivial
        refine (ensures_readStations records).bind fun left stations hleft _ => ?_
        refine Work.ensures_lift_bind (fun total htotal => ?_) fun _ _ => trivial
        split
        case isTrue => exact Work.ensures_pure trivial
        case isFalse =>
          have hrest : left ≤ pages := by omega
          exact (ih hrest (page + 1)).bind fun _ _ _ _ => Work.ensures_pure trivial

theorem ensures_stations (pages : Nat) :
    (stations pages).Ensures (fetcher.mayReply remote) pages (fun _ => True) escapes := by
  apply Work.Ensures.degrade
  · refine (ensures_stationsFrom (Nat.le_refl pages) 0).bind fun left stations hleft _ => ?_
    exact Work.ensures_note_bind (Work.ensures_pure trivial)
  · trivial

theorem ensures_parameters (stationId : String) :
    (parameters stationId).Ensures (fetcher.mayReply remote) budget
      (fun listed => ∀ parameter ∈ listed, MayList remote stationId parameter)
      escapes := by
  apply Work.Ensures.degrade
  · refine Work.ensures_fetch_bind (fun payload hpayload => ?_) fun _ _ => trivial
    split
    case isTrue =>
      exact Work.ensures_note_bind (Work.ensures_pure (List.forall_mem_nil _))
    case isFalse =>
      apply Work.ensures_lift
      change Meets _ _ (sensorsOf payload)
      cases hlisted : sensorsOf payload with
      | error failure => trivial
      | ok listed =>
          intro parameter hmem
          exact ⟨payload, listed, Fetcher.brings_of_mayReply hpayload, hlisted, hmem⟩
  · exact List.forall_mem_nil _

/-! ### Measurements -/

/-- Raw readings that are fetched are those of a reply, or there are none. -/
def IsRead (remote : Remote τ) (sensorId : String) (raw : List Record) : Prop :=
  raw = [] ∨ MayRead remote sensorId raw

theorem meets_records {sensorId : String} {request : Request} {payload : Json}
    (hrequest : request ∈ readingRequests sensorId)
    (hpayload : fetcher.mayReply remote request (.ok payload)) :
    Meets (IsRead remote sensorId) (fun _ => True) (records payload) := by
  cases hrecords : records payload with
  | error failure => trivial
  | ok raw =>
      exact .inr ⟨request, hrequest, payload, Fetcher.brings_of_mayReply hpayload, hrecords⟩

theorem ensures_liveRecords (sensorId : String) :
    (liveRecords sensorId).Ensures (fetcher.mayReply remote) budget (IsRead remote sensorId)
      escapes := by
  apply Work.Ensures.degrade
  · refine Work.ensures_fetch_bind (fun payload hpayload => ?_) fun _ _ => trivial
    exact Work.ensures_lift (meets_records List.mem_cons_self hpayload)
  · exact .inl rfl

theorem ensures_archivalRecords (sensorId : String) :
    (archivalRecords sensorId).Ensures (fetcher.mayReply remote) budget (IsRead remote sensorId)
      escapes := by
  apply Work.Ensures.degrade
  · refine Work.ensures_fetch_bind (fun payload hpayload => ?_) fun _ _ => trivial
    exact Work.ensures_lift
      (meets_records (List.mem_cons_of_mem _ List.mem_cons_self) hpayload)
  · exact .inl rfl

variable {now : Moment} {query : Query} {oldest : Option Moment}

theorem ensures_lookUpKey (hkey : query.parameterKey = none) :
    (lookUpKey query.stationId query.parameterId).Ensures (fetcher.mayReply remote) budget
      (fun _ => True) (Escape remote now query) := by
  refine (ensures_parameters query.stationId).bind fun left listed hleft hlisted => ?_
  exact Query.ensures_key hkey hlisted (Work.ensures_note_bind (Work.ensures_pure trivial))

section

variable (haware : now.isNaive = false) (hcutoff : Reading.cutoff now query.limits = .ok oldest)

include haware hcutoff

theorem ensures_usable {work : Work (List Record)} (key endpoint : String)
    (hwork : work.Ensures (fetcher.mayReply remote) budget (IsRead remote query.parameterId)
      (Escape remote now query)) :
    (usable now query key endpoint work).Ensures (fetcher.mayReply remote) budget
      (fun _ => True) (Escape remote now query) := by
  refine hwork.bind fun left raw hleft hraw => ?_
  have hmade : Meets (fun _ => True) (Escape remote now query)
      (Measurement.ofRecords ⟨query.stationId, key, name⟩ now query.limits none raw) :=
    Query.meets_ofRecords haware (by simp) hcutoff
      (hraw.imp_right fun hread => ⟨rfl, raw, rfl, hread⟩)
  refine (Work.ensures_lift hmade).bind fun left measurements hleft _ => ?_
  split
  case isTrue => exact Work.ensures_note_bind (Work.ensures_pure trivial)
  case isFalse => exact Work.ensures_pure trivial

theorem ensures_measurements :
    (measurements now query).Ensures (fetcher.mayReply remote) budget (fun _ => True)
      (Escape remote now query) := by
  have hread : ∀ left key, Work.Ensures (fetcher.mayReply remote) (do
      let live ← usable now query key "_live_records" (liveRecords query.parameterId)
      if live.isEmpty then
        usable now query key "_archival_records" (archivalRecords query.parameterId)
      else pure live) left (fun _ => True) (Escape remote now query) := by
    intro left key
    apply Work.ensures_orElse
    · exact ensures_usable haware hcutoff key _ (ensures_liveRecords query.parameterId)
    · exact fun later hlater =>
        ensures_usable haware hcutoff key _ (ensures_archivalRecords query.parameterId)
  unfold measurements
  split
  case h_1 key hkey => exact hread budget key
  case h_2 hkey => exact (ensures_lookUpKey hkey).bind fun left key _ _ => hread left key

end

section

variable [Add τ] [Sub τ] [OfNat τ 0] [LT τ] [LE τ] [DecidableLT τ] [DecidableLE τ] [TimeText τ]

theorem isGuarded_source (fetcher : Fetcher τ) (remote : Remote τ) {now : Moment}
    (haware : now.isNaive = false) (pages : Nat) :
    (source now pages).IsGuarded fetcher remote now (some pages) none (Escape remote now) where
  stations := (ensures_stations pages).isGuarded
  parameters stationId := Work.isGuarded_of_ensures fun _ => ensures_parameters stationId
  measurements _ _ hcutoff :=
    Work.isGuarded_of_ensures fun _ => ensures_measurements haware hcutoff

end

end AirQuality.Gios
