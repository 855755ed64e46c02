import AirQuality.Proofs.Guard
import AirQuality.Proofs.Payload
import AirQuality.Source.OpenMeteo

/-!
# What Open-Meteo guards against

Open-Meteo asks nothing for its stations and parameters.  For measurements it asks within a guard,
which hands a payload on as it is: the guard holds against a request that fails, but not against a
payload of the wrong shape, which is taken apart outside.
-/

namespace AirQuality.OpenMeteo

open Outcome
open Time (Moment)

variable {τ : Type} {fetcher : Fetcher τ} {remote : Remote τ} {budget : Nat}
  {escapes : Failure → Prop} {points : List Station} {point : Station} {quantity : Variable}

/-! ### What may come of replies -/

/-- The request for one block of one variable at a point. -/
def blockRequest (point : Station) (id label : String) (pastDays : Option Int) : Request :=
  let history := match pastDays with
    | some days => [("past_days", .int days), ("forecast_days", .int 1)]
    | none => []
  ⟨url, some ([("latitude", point.latitude), ("longitude", point.longitude),
    (label, .text id), ("timezone", .text "GMT")] ++ history)⟩

/-- What may come of reading the payloads that a provider may bring for a variable at a point; the
hourly readings count up to the present. -/
inductive MayRead (remote : Remote τ) (now : Moment) (limits : Limits) (point : Station)
    (quantity : Variable) : Option Moment → Except Failure (List Record) → Prop
  | current (payload : Json)
      (hbrought : remote.Brings (blockRequest point quantity.id "current" none) payload) :
      MayRead remote now limits point quantity none (currentRecords payload quantity.id)
  | hourly (days : Int) (hdays : pastDays limits = .ok days) (payload : Json)
      (hbrought : remote.Brings (blockRequest point quantity.id "hourly" (some days)) payload) :
      MayRead remote now limits point quantity (some now) (hourlyRecords payload quantity.id)

/-- What may escape from a call for measurements. -/
def Escape (remote : Remote τ) (points : List Station) (now : Moment) (query : Query) :
    Failure → Prop :=
  query.Escape now (fun _ => False) fun last outcome => ∃ point ∈ points, ∃ quantity,
    find? query.parameterId = some quantity ∧
      MayRead remote now query.limits point quantity last outcome

/-! ### Payloads -/

theorem meets_block (label : String) (payload : Json) :
    Meets (fun _ => True) Failure.IsOfShape (block label payload) :=
  (Json.meets_fieldOrNull label _).bind fun _ _ => trivial

theorem meets_currentRecords (payload : Json) (id : String) :
    Meets (fun _ => True) Failure.IsOfShape (currentRecords payload id) := by
  refine (meets_block "current" payload).bind fun current _ => ?_
  refine (Json.meets_hasPart id current).bind fun present _ => ?_
  split
  case isTrue =>
    refine (Json.meets_fieldOrNull "time" current).bind fun time _ => ?_
    exact (Json.meets_fieldOrNull id current).bind fun value _ => trivial
  case isFalse => trivial

theorem meets_hourlyRecords (payload : Json) (id : String) :
    Meets (fun _ => True) Failure.IsOfShape (hourlyRecords payload id) := by
  refine (meets_block "hourly" payload).bind fun hourly _ => ?_
  refine (Json.meets_fieldOrNull "time" hourly).bind fun times _ => ?_
  refine (Json.meets_fieldOrNull id hourly).bind fun values _ => ?_
  refine (Json.meets_elementsOrNone times).bind fun times _ => ?_
  exact (Json.meets_elementsOrNone values).bind fun values _ => trivial

/-- A payload that is asked for is one that is brought, or an empty one. -/
def IsBrought (remote : Remote τ) (request : Request) (payload : Json) : Prop :=
  payload = .object [] ∨ remote.Brings request payload

theorem ensures_payload (id label : String) (pastDays : Option Int) :
    (payload point id label pastDays).Ensures (fetcher.mayReply remote) budget
      (IsBrought remote (blockRequest point id label pastDays)) escapes := by
  apply Work.Ensures.degrade
  · refine Work.ensures_fetch (fun payload hpayload => ?_) fun _ _ => trivial
    exact .inr (Fetcher.brings_of_mayReply hpayload)
  · exact .inl rfl

/-! ### Days back -/

theorem exists_ceiling? {count : Float} {whole : Int}
    (hwhole : Decimal.truncate? count = some whole) :
    ∃ least, Decimal.ceiling? count = some least := by
  unfold Decimal.truncate? at hwhole
  unfold Decimal.ceiling?
  split at hwhole
  case h_1 => exact ⟨_, rfl⟩
  case h_2 => cases hwhole

theorem exists_wholeDays {days : Decimal.Number} {micros : Int}
    (hspan : Time.span days = .ok micros) : ∃ whole, wholeDays days = .ok whole := by
  cases days with
  | whole count => exact ⟨count, rfl⟩
  | real count =>
      obtain ⟨micros, hmicros, -⟩ := bind_eq_ok hspan
      simp only [Time.microsOfDays] at hmicros
      split at hmicros
      case h_1 whole hwhole =>
        obtain ⟨least, hleast⟩ := exists_ceiling? hwhole
        simp only [wholeDays, hleast]
        exact ⟨least, rfl⟩
      case h_2 => cases hmicros

/-- With an age limit that can be made out it is settled how far back to ask. -/
theorem exists_pastDays {now : Moment} {limits : Limits} {oldest : Option Moment}
    (hcutoff : Reading.cutoff now limits = .ok oldest) : ∃ days, pastDays limits = .ok days := by
  unfold Reading.cutoff at hcutoff
  unfold pastDays
  split
  case h_1 => exact ⟨_, rfl⟩
  case h_2 days hdays =>
    rw [hdays] at hcutoff
    obtain ⟨moment, hmoment, -⟩ := bind_eq_ok hcutoff
    obtain ⟨micros, hspan, -⟩ := bind_eq_ok hmoment
    obtain ⟨whole, hwhole⟩ := exists_wholeDays hspan
    rw [hwhole]
    exact ⟨_, rfl⟩

/-! ### Known points and variables -/

section

variable (now : Moment) {query : Query}

theorem measurements_of_known
    (hpoint : (points.find? fun point => point.id = query.stationId) = some point)
    (hquantity : find? query.parameterId = some quantity) :
    measurements now points query = measurementsAt now query point quantity := by
  simp only [measurements, hpoint, hquantity]

theorem measurements_of_unknown
    (hunknown : (points.find? fun point => point.id = query.stationId) = none) :
    measurements now points query = pure [] := by
  simp only [measurements, hunknown]

end

/-! ### Listings -/

theorem ensures_stations (points : List Station) :
    Work.Ensures (fetcher.mayReply remote) (pure points) budget (fun _ => True) escapes := trivial

theorem ensures_parameters (offered : List Variable) (stationId : String) :
    (parameters points offered stationId).Ensures (fetcher.mayReply remote) budget
      (fun _ => True) escapes := by
  unfold parameters
  split
  case isTrue => exact Work.ensures_pure trivial
  case isFalse => exact Work.ensures_note_bind (Work.ensures_pure trivial)

variable {now : Moment} {query : Query} {oldest : Option Moment}

section

variable (haware : now.isNaive = false) (hcutoff : Reading.cutoff now query.limits = .ok oldest)

include haware hcutoff

/-- Measurements fail to be made of a payload as what may be read of it says. -/
theorem meets_made {last : Option Moment} {outcome : Except Failure (List Record)}
    {tag : Measurement.Tag} (hpoint : point ∈ points)
    (hquantity : find? query.parameterId = some quantity)
    (hlast : ∀ moment ∈ last, moment.isNaive = false)
    (hshape : Meets (fun _ => True) Failure.IsOfShape outcome)
    (hread : outcome = .ok [] ∨ MayRead remote now query.limits point quantity last outcome) :
    Meets (fun _ => True) (Escape remote points now query)
      (outcome >>= Measurement.ofRecords tag now query.limits last) := by
  rcases hread with rfl | hread
  · trivial
  cases outcome with
  | error failure =>
      obtain ⟨fault, rfl⟩ := hshape
      exact .shape last fault ⟨point, hpoint, quantity, hquantity, hread⟩
  | ok records =>
      exact Query.meets_ofRecords haware hlast hcutoff
        (.inr ⟨point, hpoint, quantity, hquantity, hread⟩)

theorem ensures_measurementsAt (hpoint : point ∈ points)
    (hquantity : find? query.parameterId = some quantity) :
    (measurementsAt now query point quantity).Ensures (fetcher.mayReply remote) budget
      (fun _ => True) (Escape remote points now query) := by
  obtain ⟨days, hdays⟩ := exists_pastDays hcutoff
  unfold measurementsAt
  refine Work.Ensures.bind (ensures_payload quantity.id "current" none)
    fun left current hleft hcurrent => ?_
  have hread : currentRecords current quantity.id = .ok [] ∨
      MayRead remote now query.limits point quantity none (currentRecords current quantity.id) := by
    rcases hcurrent with rfl | hbrought
    · exact .inl rfl
    · exact .inr (.current current hbrought)
  apply Work.ensures_orElse
  · exact Work.ensures_lift (meets_made haware hcutoff hpoint hquantity (by simp)
      (meets_currentRecords current quantity.id) hread)
  · intro later hlater
    rw [hdays]
    refine Work.ensures_lift_bind (fun _ hsame => ?_) nofun
    cases hsame
    refine Work.Ensures.bind (ensures_payload quantity.id "hourly" (some days))
      fun latest hourly hlatest hhourly => ?_
    have hread : hourlyRecords hourly quantity.id = .ok [] ∨
        MayRead remote now query.limits point quantity (some now)
          (hourlyRecords hourly quantity.id) := by
      rcases hhourly with rfl | hbrought
      · exact .inl rfl
      · exact .inr (.hourly days hdays hourly hbrought)
    exact Work.ensures_lift (meets_made haware hcutoff hpoint hquantity (by simpa using haware)
      (meets_hourlyRecords hourly quantity.id) hread)

theorem ensures_measurements :
    (measurements now points query).Ensures (fetcher.mayReply remote) budget (fun _ => True)
      (Escape remote points now query) := by
  unfold measurements
  split
  case h_1 point quantity hpoint hquantity =>
    exact ensures_measurementsAt haware hcutoff (List.mem_of_find?_eq_some hpoint) hquantity
  case h_2 => exact Work.ensures_pure trivial

end

section

variable [Add τ] [Sub τ] [OfNat τ 0] [LT τ] [LE τ] [DecidableLT τ] [DecidableLE τ] [TimeText τ]

theorem isGuarded_source (fetcher : Fetcher τ) (remote : Remote τ) {now : Moment}
    (haware : now.isNaive = false) (points : List Station) (offered : List Variable) :
    (source now points offered).IsGuarded fetcher remote now none none
      (Escape remote (distinctPoints points) now) where
  stations := Work.isGuarded_of_ensures fun _ => ensures_stations (distinctPoints points)
  parameters stationId := Work.isGuarded_of_ensures fun _ => ensures_parameters offered stationId
  measurements _ _ hcutoff :=
    Work.isGuarded_of_ensures fun _ => ensures_measurements haware hcutoff

end

end AirQuality.OpenMeteo
