import AirQuality.Proofs.Guard
import AirQuality.Proofs.OpenAq.Pages

/-!
# What OpenAQ guards against

The stations, the sensors and the raw readings of OpenAQ are each read within one guard, whatever
is on the pages and however many there are.  Outside it are the canonical key of a sensor and the
measurements made of raw readings, as with GIOS.
-/

namespace AirQuality.OpenAq

open Outcome
open Time (Moment)

variable {τ β : Type} {fetcher : Fetcher τ} {remote : Remote τ} {budget : Nat}
  {escapes : Failure → Prop} {endpoint : String} {parameters : List (String × Json)}

/-! ### What may come of replies -/

/-- The results of a page one by one. -/
def itemsOf (shown : Json) : Except Failure (List Json) := do (← resultsOf shown).elements

/-- A provider may show a page of an endpoint. -/
def MayShow (remote : Remote τ) (endpoint : String) (parameters : List (String × Json))
    (shown : Json) : Prop :=
  ∃ number payload, remote.Brings (pageRequest endpoint parameters number) payload ∧
    shown = payload.orElse (.object [])

/-- A provider may list a result of an endpoint. -/
def MayServe (remote : Remote τ) (endpoint : String) (parameters : List (String × Json))
    (item : Json) : Prop :=
  ∃ shown items, MayShow remote endpoint parameters shown ∧ itemsOf shown = .ok items ∧
    item ∈ items

/-- A provider may list a sensor for a location. -/
def MayList (remote : Remote τ) (stationId : String) (parameter : Parameter) : Prop :=
  ∃ payload items, remote.Brings ⟨s!"{base}/locations/{stationId}/sensors", none⟩ payload ∧
    itemsOf (payload.orElse (.object [])) = .ok items ∧ ∃ item ∈ items, sensor item = .ok parameter

/-- Raw readings that all come from pages of one of the two endpoints of a sensor. -/
def MayRead (remote : Remote τ) (now : Moment) (query : Query) (raw : List Record) : Prop :=
  ∃ parameters, ageParameters now query.limits = .ok parameters ∧
    ∃ endpoint ∈ ["measurements", "hours"], ∀ record ∈ raw, ∃ item,
      MayServe remote s!"sensors/{query.parameterId}/{endpoint}" parameters item ∧
        readingRecord item = .ok record

/-- What may escape from a call for measurements. -/
def Escape (remote : Remote τ) (now : Moment) (query : Query) : Failure → Prop :=
  query.Escape now (MayList remote query.stationId) fun last outcome =>
    last = none ∧ ∃ raw, outcome = .ok raw ∧ MayRead remote now query raw

/-! ### Pages -/

theorem ensures_count_bind {value : Json} {default : Int} {next : Int → Work β}
    {holds : β → Prop}
    (hnext : ∀ number, (next number).Ensures (fetcher.mayReply remote) budget holds escapes) :
    (count value default >>= next).Ensures (fetcher.mayReply remote) budget holds escapes := by
  unfold count
  split
  case h_1 number hread => exact hnext number
  case h_2 number entry hread => exact hnext number

theorem ensures_page_bind {number : Int} {next : Json → Work β} {holds : β → Prop}
    (hnext : ∀ shown, MayShow remote endpoint parameters shown →
      (next shown).Ensures (fetcher.mayReply remote) (budget - 1) holds fun _ => True) :
    (page endpoint parameters number >>= next).Ensures (fetcher.mayReply remote) budget holds
      fun _ => True := by
  unfold page
  rw [bind_assoc]
  refine Work.ensures_fetch_bind (fun payload hpayload => ?_) fun _ _ => trivial
  exact hnext _ ⟨number, payload, Fetcher.brings_of_mayReply hpayload, rfl⟩

/-- What is read page by page is read of results that the endpoint may list. -/
theorem ensures_pagesFrom {read : Json → Except Failure β} {pages : Nat}
    (hbudget : budget ≤ pages) (number : Int) :
    (pagesFrom endpoint parameters read pages number).Ensures (fetcher.mayReply remote) budget
      (fun values => ∀ value ∈ values, ∃ item,
        MayServe remote endpoint parameters item ∧ read item = .ok value)
      fun _ => True := by
  induction pages generalizing budget number with
  | zero =>
      obtain rfl := Nat.le_zero.mp hbudget
      exact Work.ensures_unfinished
  | succ pages ih =>
      unfold pagesFrom
      refine ensures_page_bind fun shown hshown => ?_
      refine Work.ensures_lift_bind (fun results hresults => ?_) fun _ _ => trivial
      split
      case isTrue => exact Work.ensures_pure (List.forall_mem_nil _)
      case isFalse =>
        refine Work.ensures_lift_bind (fun values hvalues => ?_) fun _ _ => trivial
        have hserved : ∀ value ∈ values, ∃ item,
            MayServe remote endpoint parameters item ∧ read item = .ok value := by
          intro value hvalue
          obtain ⟨items, hitems, hread⟩ := bind_eq_ok hvalues
          obtain ⟨item, hitem, hvalue⟩ := exists_mem_of_mapM hread hvalue
          have hlisted : itemsOf shown = .ok items := by
            rw [itemsOf, hresults]
            exact hitems
          exact ⟨item, ⟨shown, items, hshown, hlisted, hitem⟩, hvalue⟩
        refine Work.ensures_lift_bind (fun about habout => ?_) fun _ _ => trivial
        refine Work.ensures_lift_bind (fun found hfound => ?_) fun _ _ => trivial
        refine ensures_count_bind fun total => ?_
        refine Work.ensures_lift_bind (fun limit hlimit => ?_) fun _ _ => trivial
        refine ensures_count_bind fun size => ?_
        refine Work.ensures_note_bind ?_
        split
        case isTrue => exact Work.ensures_pure hserved
        case isFalse =>
          have hrest : budget - 1 ≤ pages := by omega
          refine (ih hrest (number + 1)).bind fun left more hleft hmore => ?_
          exact Work.ensures_pure (List.forall_mem_append.mpr ⟨hserved, hmore⟩)

theorem meets_itemsOf {shown : Json} (hshown : MayShow remote endpoint parameters shown) :
    Meets (fun items => ∀ item ∈ items, MayServe remote endpoint parameters item) (fun _ => True)
      (itemsOf shown) := by
  cases hitems : itemsOf shown with
  | error failure => trivial
  | ok items => exact fun item hitem => ⟨shown, items, hshown, hitems, hitem⟩

theorem meets_elements {shown results : Json} (hshown : MayShow remote endpoint parameters shown)
    (hresults : resultsOf shown = .ok results) :
    Meets (fun items => ∀ item ∈ items, MayServe remote endpoint parameters item) (fun _ => True)
      results.elements := by
  have hmeets := meets_itemsOf hshown
  rw [itemsOf, hresults] at hmeets
  exact hmeets

theorem meets_join {shown results : Json} {more : List Json}
    (hshown : MayShow remote endpoint parameters shown)
    (hresults : resultsOf shown = .ok results)
    (hmore : ∀ item ∈ more, MayServe remote endpoint parameters item) :
    Meets (fun items => ∀ item ∈ items, MayServe remote endpoint parameters item) (fun _ => True)
      (join results more) := by
  have hfirst := meets_elements hshown hresults
  cases results with
  | list items => exact List.forall_mem_append.mpr ⟨hfirst, hmore⟩
  | _ => trivial

theorem ensures_latestResults {pages : Nat} (hbudget : budget ≤ pages) (wanted : Option Int) :
    (latestResults pages endpoint parameters wanted).Ensures (fetcher.mayReply remote) budget
      (fun items => ∀ item ∈ items, MayServe remote endpoint parameters item)
      fun _ => True := by
  unfold latestResults
  refine ensures_page_bind fun shown hshown => ?_
  refine Work.ensures_lift_bind (fun results hresults => ?_) fun _ _ => trivial
  refine Work.ensures_lift_bind (fun about habout => ?_) fun _ _ => trivial
  refine Work.ensures_lift_bind (fun total htotal => ?_) fun _ _ => trivial
  refine Work.ensures_lift_bind (fun limit hlimit => ?_) fun _ _ => trivial
  refine ensures_count_bind fun size => ?_
  split
  case isTrue => exact Work.ensures_lift (meets_elements hshown hresults)
  case isFalse =>
    split
    case h_1 wanted found hwanted hfound =>
      dsimp only
      split
      case isTrue => exact Work.ensures_lift (meets_elements hshown hresults)
      case isFalse =>
        refine Work.ensures_note_bind ?_
        have htail : ∀ left (number : Int), Work.Ensures (fetcher.mayReply remote) (do
            let payload ← page endpoint parameters number
            Work.lift (do (← resultsOf payload).elements)) left
            (fun items => ∀ item ∈ items, MayServe remote endpoint parameters item)
            fun _ => True :=
          fun left number => ensures_page_bind fun other hother =>
            Work.ensures_lift (meets_itemsOf hother)
        refine (Work.ensures_mapM fun left number _ => htail left number).bind
          fun left tail hleft hserved => ?_
        have hitems : ∀ item ∈ tail.flatten, MayServe remote endpoint parameters item := by
          intro item hitem
          obtain ⟨items, hitems, hmem⟩ := List.mem_flatten.mp hitem
          exact hserved items hitems item hmem
        split
        case isTrue => exact Work.ensures_lift (meets_join hshown hresults hitems)
        case isFalse => exact Work.ensures_pure hitems
    case h_2 =>
      have hrest : budget - 1 ≤ pages := by omega
      refine (ensures_pagesFrom hrest 2).bind fun left more hleft hmore => ?_
      apply Work.ensures_lift
      apply meets_join hshown hresults
      intro item hitem
      obtain ⟨served, hserved, hsame⟩ := hmore item hitem
      exact Except.ok.inj hsame ▸ hserved

/-! ### Listings -/

theorem ensures_withKey {hasKey : Bool} {work : Work (List β)} {holds : List β → Prop}
    (hwork : work.Ensures (fetcher.mayReply remote) budget holds escapes) (hnone : holds []) :
    (withKey hasKey work).Ensures (fetcher.mayReply remote) budget holds escapes := by
  unfold withKey
  split
  case isTrue => exact hwork
  case isFalse => exact Work.ensures_note_bind (Work.ensures_pure hnone)

theorem ensures_stations (hasKey : Bool) (pages : Nat) :
    (stations hasKey pages).Ensures (fetcher.mayReply remote) pages (fun _ => True) escapes := by
  apply Work.Ensures.degrade
  · refine ensures_withKey ?_ trivial
    refine (ensures_pagesFrom (Nat.le_refl pages) 1).bind fun left stations hleft _ => ?_
    exact Work.ensures_note_bind (Work.ensures_pure trivial)
  · trivial

theorem ensures_parameters (hasKey : Bool) (stationId : String) :
    (OpenAq.parameters hasKey stationId).Ensures (fetcher.mayReply remote) budget
      (fun listed => ∀ parameter ∈ listed, MayList remote stationId parameter) escapes := by
  apply Work.Ensures.degrade
  · refine ensures_withKey ?_ (List.forall_mem_nil _)
    refine Work.ensures_fetch_bind (fun payload hpayload => ?_) fun _ _ => trivial
    apply Work.ensures_lift
    have hbrought := Fetcher.brings_of_mayReply hpayload
    generalize hlisted : (do ((← (← resultsOf (payload.orElse (.object []))).elements).mapM
      sensor) : Except Failure (List Parameter)) = listed
    cases listed with
    | error failure => trivial
    | ok listed =>
        intro parameter hmem
        obtain ⟨results, hresults, hread⟩ := bind_eq_ok hlisted
        obtain ⟨items, hitems, hread⟩ := bind_eq_ok hread
        have hshown : itemsOf (payload.orElse (.object [])) = .ok items := by
          rw [itemsOf, hresults]
          exact hitems
        exact ⟨payload, items, hbrought, hshown, exists_mem_of_mapM hread hmem⟩
  · exact List.forall_mem_nil _

/-! ### Measurements -/

theorem ensures_records {pages : Nat} (hbudget : budget ≤ pages) (sensorId endpoint : String)
    (wanted : Option Int) :
    (records pages sensorId endpoint parameters wanted).Ensures (fetcher.mayReply remote) budget
      (fun raw => ∀ record ∈ raw, ∃ item,
        MayServe remote s!"sensors/{sensorId}/{endpoint}" parameters item ∧
          readingRecord item = .ok record) escapes := by
  apply Work.Ensures.degrade
  · refine (ensures_latestResults hbudget wanted).bind fun left items hleft hitems => ?_
    apply Work.ensures_lift
    cases hread : items.mapM readingRecord with
    | error failure => trivial
    | ok raw =>
        intro record hrecord
        obtain ⟨item, hitem, hrecord⟩ := exists_mem_of_mapM hread hrecord
        exact ⟨item, hitems item hitem, hrecord⟩
  · exact List.forall_mem_nil _

variable {now : Moment} {query : Query} {oldest : Option Moment}

theorem ensures_lookUpKey (hasKey : Bool) (hkey : query.parameterKey = none) :
    (lookUpKey hasKey query.stationId query.parameterId).Ensures (fetcher.mayReply remote) budget
      (fun _ => True) (Escape remote now query) := by
  refine (ensures_parameters hasKey query.stationId).bind fun left listed hleft hlisted => ?_
  exact Query.ensures_key hkey hlisted (Work.ensures_note_bind (Work.ensures_pure trivial))

/-- A request can say what is too old if that can be made out at all. -/
theorem exists_ageParameters (hcutoff : Reading.cutoff now query.limits = .ok oldest) :
    ∃ parameters, ageParameters now query.limits = .ok parameters := by
  unfold Reading.cutoff at hcutoff
  unfold ageParameters
  split
  case h_1 => exact ⟨_, rfl⟩
  case h_2 days hdays =>
    rw [hdays] at hcutoff
    obtain ⟨moment, hmoment, -⟩ := bind_eq_ok hcutoff
    rw [hmoment]
    exact ⟨_, rfl⟩

section

variable (haware : now.isNaive = false) (hcutoff : Reading.cutoff now query.limits = .ok oldest)

include haware hcutoff

theorem ensures_usable {pages : Nat} (hbudget : budget ≤ pages) (key : String)
    (hparameters : ageParameters now query.limits = .ok parameters) {endpoint : String}
    (hendpoint : endpoint ∈ ["measurements", "hours"]) :
    (usable now pages query key parameters endpoint).Ensures (fetcher.mayReply remote) budget
      (fun _ => True) (Escape remote now query) := by
  refine (ensures_records hbudget query.parameterId endpoint query.limits.maxCount).bind
    fun left raw hleft hraw => ?_
  have hread : MayRead remote now query raw :=
    ⟨parameters, hparameters, endpoint, hendpoint, hraw⟩
  have hmade : Meets (fun _ => True) (Escape remote now query)
      (Measurement.ofRecords ⟨query.stationId, key, name⟩ now query.limits none raw) :=
    Query.meets_ofRecords haware (by simp) hcutoff (.inr ⟨rfl, raw, rfl, hread⟩)
  refine (Work.ensures_lift hmade).bind fun left measurements hleft _ => ?_
  split
  case isTrue => exact Work.ensures_note_bind (Work.ensures_pure trivial)
  case isFalse => exact Work.ensures_pure trivial

theorem ensures_measurements (hasKey : Bool) {pages : Nat} (hbudget : budget ≤ pages) :
    (measurements now hasKey pages query).Ensures (fetcher.mayReply remote) budget
      (fun _ => True) (Escape remote now query) := by
  obtain ⟨parameters, hparameters⟩ := exists_ageParameters hcutoff
  have hread : ∀ (left : Nat) key, left ≤ budget → Work.Ensures (fetcher.mayReply remote) (do
      let parameters ← Work.lift (ageParameters now query.limits)
      let live ← usable now pages query key parameters "measurements"
      if live.isEmpty then usable now pages query key parameters "hours" else pure live) left
      (fun _ => True) (Escape remote now query) := by
    intro left key hleft
    have hroom : left ≤ pages := Nat.le_trans hleft hbudget
    rw [hparameters]
    refine Work.ensures_lift_bind (fun parameters hsame => ?_) nofun
    cases hsame
    apply Work.ensures_orElse
    · exact ensures_usable haware hcutoff hroom key hparameters (by simp)
    · intro later hlater
      exact ensures_usable haware hcutoff (Nat.le_trans hlater hroom) key hparameters
        (by simp)
  refine ensures_withKey ?_ trivial
  split
  case h_1 key hkey => exact hread budget key (Nat.le_refl budget)
  case h_2 hkey =>
    exact (ensures_lookUpKey hasKey hkey).bind fun left key hleft _ => hread left key hleft

end

section

variable [Add τ] [Sub τ] [OfNat τ 0] [LT τ] [LE τ] [DecidableLT τ] [DecidableLE τ] [TimeText τ]

theorem isGuarded_source (fetcher : Fetcher τ) (remote : Remote τ) {now : Moment}
    (haware : now.isNaive = false) (hasKey : Bool) (pages : Nat) :
    (source now hasKey pages).IsGuarded fetcher remote now (some pages) (some pages)
      (Escape remote now) where
  stations := (ensures_stations hasKey pages).isGuarded
  parameters stationId := Work.isGuarded_of_ensures fun _ => ensures_parameters hasKey stationId
  measurements _ _ hcutoff :=
    (ensures_measurements haware hcutoff hasKey (Nat.le_refl pages)).isGuarded

end

end AirQuality.OpenAq
