import AirQuality.Proofs.Guard.Providers
import AirQuality.Proofs.Plan.Fetched
import AirQuality.Proofs.Reading.Forecast

/-!
# The hourly series of Open-Meteo

The hourly series stands in for a current reading that cannot be used.  Its times and values are
paired place by place.  It goes on into the future, but the places of forecasts could as well be
missing from it, as long as they do not spoil the others.
-/

namespace AirQuality.OpenMeteo

open Outcome
open Time (Moment)

variable {τ α : Type} {fetch : Request → Fetching τ Json}

/-! ### What a call fetches -/

/-- The payload that a reply is read as; one that failed counts as an empty payload. -/
def shown (reply : Except Failure Json) : Json := reply.toOption.getD (.object [])

/-- Work ends with a request for a block that is cancelled, and else goes on with the payload that
is shown. -/
theorem relates_payload_bind {point : Station} {id label : String} {pastDays : Option Int}
    {next : Json → Work α} {R : List Fetched → Except Failure (Except Failure α) → Prop}
    (hcut : ∀ failure, failure.isCancelled = true →
      R [⟨blockRequest point id label pastDays, .error failure⟩] (.ok (.error failure)))
    (hnext : ∀ reply, (next (shown reply)).run.Relates fetch fun rest outcome =>
      R (⟨blockRequest point id label pastDays, reply⟩ :: rest) outcome) :
    (payload point id label pastDays >>= next).run.Relates fetch R := by
  refine Plan.relates_request fun reply => ?_
  cases reply with
  | ok payload => exact hnext (.ok payload)
  | error failure =>
      change Plan.Relates fetch _ (Plan.bind (Work.handle _ _ _ (.error failure)) _)
      cases hcancelled : failure.isCancelled with
      | true =>
          rw [Work.handle_of_cancelled hcancelled]
          exact Plan.relates_done (hcut failure hcancelled)
      | false =>
          rw [Work.handle_of_uncancelled hcancelled]
          exact (hnext (.error failure)).of_leads (.note (.here _))

/-- What measurements of a variable are tagged with in the answer to a query. -/
def tagOf (query : Query) (quantity : Variable) : Measurement.Tag :=
  ⟨query.stationId, (query.parameterKey.filter (· ≠ "")).getD quantity.canonicalKey, name⟩

/-- What the current reading in a payload comes to. -/
def currentOf (now : Moment) (query : Query) (quantity : Variable) (payload : Json) :
    Except Failure (List Measurement) := do
  Measurement.ofRecords (tagOf query quantity) now query.limits none
    (← currentRecords payload quantity.id)

/-- What the hourly series in a payload comes to. -/
def hourlyOf (now : Moment) (query : Query) (quantity : Variable) (payload : Json) :
    Except Failure (List Measurement) := do
  Measurement.ofRecords (tagOf query quantity) now query.limits (some now)
    (← hourlyRecords payload quantity.id)

/-- What is fetched for a query about a point and a variable, and what that comes to: the hourly
series is only asked for where there is no current reading to be used. -/
inductive Answers (now : Moment) (query : Query) (point : Station) (quantity : Variable) :
    List Fetched → Except Failure (Except Failure (List Measurement)) → Prop
  | cancelled {failure : Failure} (hcancelled : failure.isCancelled = true) :
    Answers now query point quantity
      [⟨blockRequest point quantity.id "current" none, .error failure⟩] (.ok (.error failure))
  | current {reply : Except Failure Json}
      (husable : currentOf now query quantity (shown reply) ≠ .ok []) :
    Answers now query point quantity
      [⟨blockRequest point quantity.id "current" none, reply⟩]
      (.ok (currentOf now query quantity (shown reply)))
  | endless {reply : Except Failure Json} {failure : Failure}
      (hunusable : currentOf now query quantity (shown reply) = .ok [])
      (hdays : pastDays query.limits = .error failure) :
    Answers now query point quantity
      [⟨blockRequest point quantity.id "current" none, reply⟩] (.ok (.error failure))
  | interrupted {reply : Except Failure Json} {days : Int} {failure : Failure}
      (hunusable : currentOf now query quantity (shown reply) = .ok [])
      (hdays : pastDays query.limits = .ok days) (hcancelled : failure.isCancelled = true) :
    Answers now query point quantity
      [⟨blockRequest point quantity.id "current" none, reply⟩,
        ⟨blockRequest point quantity.id "hourly" (some days), .error failure⟩]
      (.ok (.error failure))
  | hourly {reply later : Except Failure Json} {days : Int}
      (hunusable : currentOf now query quantity (shown reply) = .ok [])
      (hdays : pastDays query.limits = .ok days) :
    Answers now query point quantity
      [⟨blockRequest point quantity.id "current" none, reply⟩,
        ⟨blockRequest point quantity.id "hourly" (some days), later⟩]
      (.ok (hourlyOf now query quantity (shown later)))

theorem relates_measurementsAt (fetch : Request → Fetching τ Json) (now : Moment) (query : Query)
    (point : Station) (quantity : Variable) :
    (measurementsAt now query point quantity).run.Relates fetch
      (Answers now query point quantity) := by
  refine relates_payload_bind (fun failure => .cancelled) fun reply => ?_
  change Plan.Relates fetch _ (Work.lift (currentOf now query quantity (shown reply)) >>= _).run
  have hdone (outcome : Except Failure (List Measurement))
      (hcurrent : currentOf now query quantity (shown reply) = outcome)
      (husable : outcome ≠ .ok []) :
      (Plan.done outcome).Relates fetch fun rest outcome => Answers now query point quantity
        (⟨blockRequest point quantity.id "current" none, reply⟩ :: rest) outcome :=
    Plan.relates_done (hcurrent ▸ .current (hcurrent ▸ husable))
  cases hcurrent : currentOf now query quantity (shown reply) with
  | error failure => exact hdone _ hcurrent nofun
  | ok live =>
      cases live with
      | cons first rest => exact hdone _ hcurrent nofun
      | nil =>
          -- Only here is anything else asked for.
          change Plan.Relates fetch _ (Work.lift (pastDays query.limits) >>= _).run
          cases hdays : pastDays query.limits with
          | error failure => exact Plan.relates_done (.endless hcurrent hdays)
          | ok days =>
              change Plan.Relates fetch _ (payload point quantity.id "hourly" (some days) >>=
                fun later => Work.lift (hourlyOf now query quantity later)).run
              refine relates_payload_bind (fun failure hcancelled => ?_) fun later => ?_
              · exact .interrupted hcurrent hdays hcancelled
              · exact Plan.relates_done (.hourly hcurrent hdays)

/-! ### Series -/

/-- The items of a column that are not in some places. -/
def withoutPlaces {β : Type} (gone : Nat → Bool) (items : List β) : List β :=
  (items.zipIdx.filter fun item => !gone item.2).map (·.1)

/-- Without some places in either of them, columns have the pairs that they had in the others. -/
theorem zipWith_withoutPlaces {β γ δ : Type} (gone : Nat → Bool) (pair : β → γ → δ)
    (times : List β) (values : List γ) :
    List.zipWith pair (withoutPlaces gone times) (withoutPlaces gone values) =
      withoutPlaces gone (List.zipWith pair times values) := by
  unfold withoutPlaces
  -- The places are counted from another one in the rest of the columns.
  generalize 0 = first
  induction times generalizing values first with
  | nil => rfl
  | cons time times ih =>
      cases values with
      | nil =>
          rw [List.zipWith_nil_right]
          exact List.zipWith_nil_right
      | cons value values =>
          simp only [List.zipIdx_cons, List.zipWith_cons_cons, List.filter_cons]
          cases gone first with
          | true => exact ih values (first + 1)
          | false => exact congrArg (pair time value :: ·) (ih values (first + 1))

/-- Items that are gone by their place are gone by what they are. -/
theorem withoutPlaces_eq_filter {β : Type} {gone : Nat → Bool} {stays : β → Bool} {items : List β}
    (hgone : ∀ place item, items[place]? = some item → gone place = !stays item) :
    withoutPlaces gone items = items.filter stays := by
  have hstays : items.zipIdx.filter (fun item => !gone item.2) =
      items.zipIdx.filter (stays ∘ (·.1)) := by
    refine List.filter_congr fun item hitem => ?_
    rw [hgone item.2 item.1 (List.mk_mem_zipIdx_iff_getElem?.mp hitem), Bool.not_not]
    rfl
  rw [withoutPlaces, hstays, ← List.filter_map, List.zipIdx_map_fst]

/-- A payload with a series of times and values of a variable. -/
def ShowsSeries (payload : Json) (id : String) (times values : List Json) : Prop :=
  ∃ hourly, block "hourly" payload = .ok hourly ∧
    hourly.fieldOrNull "time" = .ok (.list times) ∧ hourly.fieldOrNull id = .ok (.list values)

theorem elementsOrNone_list (items : List Json) : (Json.list items).elementsOrNone = .ok items := by
  cases items with
  | nil => rfl
  | cons item rest => rfl

theorem ShowsSeries.hourlyRecords_eq {payload : Json} {id : String} {times values : List Json}
    (hshows : ShowsSeries payload id times values) :
    hourlyRecords payload id = .ok (List.zipWith Record.mk times values) := by
  obtain ⟨hourly, hblock, htimes, hvalues⟩ := hshows
  simp only [hourlyRecords, hblock, htimes, hvalues, elementsOrNone_list, ok_bind, pure_eq_ok]

/-- Whether the timestamp in a place of a series is after the present. -/
def isForecastAt (now : Moment) (times values : List Json) (place : Nat) : Bool :=
  times[place]?.any
    (Reading.isAhead now (Reading.contextOf (List.zipWith Record.mk times values)).areNumbers)

theorem zipWith_withoutPlaces_isForecastAt (now : Moment) (times values : List Json) :
    List.zipWith Record.mk (withoutPlaces (isForecastAt now times values) times)
        (withoutPlaces (isForecastAt now times values) values) =
      Reading.past now (List.zipWith Record.mk times values) := by
  rw [zipWith_withoutPlaces]
  refine withoutPlaces_eq_filter fun place record hplace => ?_
  obtain ⟨time, value, htime, -, rfl⟩ := List.getElem?_zipWith_eq_some.mp hplace
  rw [Bool.not_not, isForecastAt, htime, Option.any_some]

/-! ### Falling back on a series -/

/-- A call in a session falls back on a payload: it asks for the hourly series, which it only does
where there is no current reading to be used, and the payload is brought. -/
def FallsBackOn (fetch : Request → Fetching τ Json) (session : Session τ)
    (work : Work (List Measurement)) (payload : Json) : Prop :=
  ∃ current request, work.run.fetched fetch session = [current, ⟨request, .ok payload⟩]

theorem id_of_find? {id : String} {quantity : Variable} (hquantity : find? id = some quantity) :
    quantity.id = id := by
  have hfound := List.find?_some hquantity
  exact of_decide_eq_true hfound

/-- What a call comes to that falls back on a series is made of the pairs of the series. -/
theorem FallsBackOn.perform_eq {session : Session τ} {now : Moment} {points : List Station}
    {query : Query} {payload : Json} {times values : List Json}
    (hfalls : FallsBackOn fetch session (measurements now points query) payload)
    (hshows : ShowsSeries payload query.parameterId times values) :
    ∃ quantity, find? query.parameterId = some quantity ∧
      ((measurements now points query).perform fetch session).1 =
        Measurement.ofRecords (tagOf query quantity) now query.limits (some now)
          (List.zipWith Record.mk times values) := by
  obtain ⟨current, request, hfetched⟩ := hfalls
  unfold measurements at hfetched ⊢
  split at hfetched
  case h_1 point quantity hpoint hquantity =>
    have hanswers := relates_measurementsAt fetch now query point quantity session
    rw [hfetched] at hanswers
    refine ⟨quantity, hquantity, ?_⟩
    rw [Work.perform_fst]
    generalize (Plan.perform fetch _ session).1 = outcome at hanswers ⊢
    cases hanswers with
    | hourly hunusable hdays =>
        change hourlyOf now query quantity payload = _
        rw [hourlyOf, id_of_find? hquantity, hshows.hourlyRecords_eq, ok_bind]
  case h_2 => cases hfetched

/-! ### Series without forecasts -/

/-- Timestamps that are texts have no more than six digits of a fraction. -/
def AreCoarse (times : List Json) : Prop :=
  ∀ time ∈ times, ∀ raw, time = .text raw → ∀ stamp ∈ Time.Stamp.ofText? raw, stamp.isFine = false

theorem isCoarse_of_areCoarse {times : List Json} (hcoarse : AreCoarse times)
    (values : List Json) :
    ∀ record ∈ List.zipWith Record.mk times values, record.IsCoarse := by
  intro record hrecord
  obtain ⟨place, hplace⟩ := List.mem_iff_getElem?.mp hrecord
  obtain ⟨time, value, htime, -, rfl⟩ := List.getElem?_zipWith_eq_some.mp hplace
  exact hcoarse time (List.mem_of_getElem? htime)

/-- A call that falls back on a series lists measurements of its pairs, up to the present and after
the cutoff.  Falling back on the series without the places of forecasts, it lists the same, up to
the sign of a zero, if the forecasts are separable. -/
theorem measurements_withoutForecasts {fetch : Request → Fetching τ Json} {session : Session τ}
    (now : Moment) (points : List Station) (query : Query) {payload : Json}
    {times values : List Json}
    (hfalls : FallsBackOn fetch session (measurements now points query) payload)
    (hshows : ShowsSeries payload query.parameterId times values) (hcoarse : AreCoarse times) :
    (∃ quantity, find? query.parameterId = some quantity ∧ ∀ listed,
      ((measurements now points query).perform fetch session).1 = .ok listed →
        ∀ measurement ∈ listed, Measurement.IsPaired (tagOf query quantity) now query.limits times
          values measurement) ∧
    ∀ (other : Request → Fetching τ Json) (start : Session τ) (shorter : Json),
      FallsBackOn other start (measurements now points query) shorter →
      ShowsSeries shorter query.parameterId
        (withoutPlaces (isForecastAt now times values) times)
        (withoutPlaces (isForecastAt now times values) values) →
      Reading.AreSeparable now query.limits (List.zipWith Record.mk times values) →
      ∀ listed, ((measurements now points query).perform other start).1 = .ok listed ↔
        ∃ all, ((measurements now points query).perform fetch session).1 = .ok all ∧
          all.map (Measurement.settleZero
            (Reading.past now (List.zipWith Record.mk times values))) = listed := by
  obtain ⟨quantity, hquantity, hperformed⟩ := hfalls.perform_eq hshows
  have hcoarseRecords := isCoarse_of_areCoarse hcoarse values
  constructor
  · refine ⟨quantity, hquantity, fun listed hlisted measurement hmem => ?_⟩
    exact Measurement.isPaired_of_ofRecords hcoarseRecords (hperformed ▸ hlisted) hmem
  · intro other start shorter hother hshorter hseparable listed
    obtain ⟨same, hsame, hotherPerformed⟩ := hother.perform_eq hshorter
    obtain rfl := Option.some.inj (hquantity.symm.trans hsame)
    rw [hotherPerformed, hperformed, zipWith_withoutPlaces_isForecastAt]
    exact Measurement.ofRecords_past_iff (tagOf query quantity) hcoarseRecords hseparable listed

/-- A payload with an hourly series of dust. -/
def dustSeries (times values : List Json) : Json :=
  .object [("hourly", .object [("time", .list times), ("pm10", .list values)])]

/-- A provider with nothing at present, and with an hourly series of dust. -/
def seriesOnly (times values : List Json) : Remote ℤ :=
  .ofList [.nothing, ⟨.answer 200 "OK" (.value (dustSeries times values)), 0, false⟩]

/-- A query for the newest reading of dust in Warsaw. -/
def newestDust : Query := ⟨"warszawa", "pm10", ⟨some 1, none⟩, none⟩

/-- What is listed of an hourly series at ten in the morning on 1 June 2025. -/
def listedAtTen (query : Query) (times values : List Json) : Except Failure (List Measurement) :=
  ((measurements Measurement.morning [Source.warsaw] query).perform
    (Source.hasty.fetch (seriesOnly times values)) (Session.start 0)).1

theorem fallsBackOn_dustSeries (times values : List Json) :
    FallsBackOn (Source.hasty.fetch (seriesOnly times values)) (Session.start 0)
      (measurements Measurement.morning [Source.warsaw] newestDust) (dustSeries times values) :=
  ⟨_, _, rfl⟩

theorem showsSeries_dustSeries (times values : List Json) :
    ShowsSeries (dustSeries times values) "pm10" times values := ⟨_, rfl, rfl, rfl⟩

def nine : Json := .text "2025-06-01T09:00"

def eleven : Json := .text "2025-06-01T11:00"

/-- At ten, eleven is to come. -/
theorem withoutPlaces_eleven {β : Type} (first second : β) :
    withoutPlaces (isForecastAt Measurement.morning [nine, eleven] [.float 1, .float 2])
      [first, second] = [first] := by
  have hnine : isForecastAt Measurement.morning [nine, eleven] [.float 1, .float 2] 0 = false := by
    decide +kernel
  have heleven : isForecastAt Measurement.morning [nine, eleven] [.float 1, .float 2] 1 = true := by
    decide +kernel
  simp [withoutPlaces, hnine, heleven]

theorem past_eleven :
    Reading.past Measurement.morning [⟨nine, .float 1⟩, ⟨eleven, .float 2⟩] =
      [⟨nine, .float 1⟩] := by
  have hpast := zipWith_withoutPlaces_isForecastAt Measurement.morning [nine, eleven]
    [.float 1, .float 2]
  rw [withoutPlaces_eleven, withoutPlaces_eleven] at hpast
  exact hpast.symm

theorem areSeparable_eleven : Reading.AreSeparable Measurement.morning newestDust.limits
    [⟨nine, .float 1⟩, ⟨eleven, .float 2⟩] where
  values := List.forall_mem_cons.mpr ⟨fun _ => nofun,
    List.forall_mem_singleton.mpr fun _ => nofun⟩
  left _ := by
    rw [past_eleven]
    exact .inr ⟨_, List.mem_singleton_self _, nofun⟩
  kind := by
    rw [past_eleven]
    exact .inl rfl

/-- The forecast does not take the only place. -/
theorem measurements_withoutForecasts_eleven :
    ∃ listed, listedAtTen newestDust [nine] [.float 1] = .ok listed ∧ listed.length = 1 ∧
      ∃ all, listedAtTen newestDust [nine, eleven] [.float 1, .float 2] = .ok all ∧
        all.map (Measurement.settleZero [⟨nine, .float 1⟩]) = listed := by
  have hcoarse : AreCoarse [nine, eleven] := List.forall_mem_cons.mpr
    ⟨Record.isCoarse_of_text (by decide +kernel) .null,
      List.forall_mem_singleton.mpr (Record.isCoarse_of_text (by decide +kernel) .null)⟩
  have hshows : ShowsSeries (dustSeries [nine] [.float 1]) newestDust.parameterId
      (withoutPlaces (isForecastAt Measurement.morning [nine, eleven] [.float 1, .float 2])
        [nine, eleven])
      (withoutPlaces (isForecastAt Measurement.morning [nine, eleven] [.float 1, .float 2])
        [.float 1, .float 2]) := by
    rw [withoutPlaces_eleven, withoutPlaces_eleven]
    exact showsSeries_dustSeries _ _
  have hwithout := (measurements_withoutForecasts Measurement.morning [Source.warsaw] newestDust
    (fallsBackOn_dustSeries [nine, eleven] [.float 1, .float 2]) (showsSeries_dustSeries _ _)
    hcoarse).2 _ _ _ (fallsBackOn_dustSeries [nine] [.float 1]) hshows areSeparable_eleven
  have hone : (listedAtTen newestDust [nine] [.float 1]).toOption.map List.length = some 1 := by
    decide +kernel
  cases hlisted : listedAtTen newestDust [nine] [.float 1] with
  | error failure =>
      rw [hlisted] at hone
      cases hone
  | ok listed =>
      rw [hlisted] at hone
      obtain ⟨all, hall, hsame⟩ := (hwithout listed).mp hlisted
      refine ⟨listed, rfl, Option.some.inj hone, all, hall, ?_⟩
      rw [← past_eleven]
      exact hsame

/-- When the measurements were taken that are listed of an hourly series, if any are listed, and of
the series without the places of forecasts. -/
def takenWithAndWithout (days : Option Decimal.Number) (times values : List Json) :
    Option (List Int) × Option (List Int) :=
  let gone := isForecastAt Measurement.morning times values
  let taken (times values : List Json) :=
    (listedAtTen ⟨"warszawa", "pm10", ⟨none, days⟩, none⟩ times values).toOption.map
      (List.map (·.timestamp.wall))
  (taken times values, taken (withoutPlaces gone times) (withoutPlaces gone values))

/-- Each kind of difference that a forecast can make: it fails the call with a value that is too
large, it makes a number no year, it leaves flags alone, or it is all there is where no cutoff can
be told. -/
theorem measurements_withoutForecasts_inseparable :
    takenWithAndWithout none [nine, eleven] [.float 1, .int (10 ^ 400)] =
        (none, some [1748768400000000]) ∧
      takenWithAndWithout none [.float 2025, eleven] [.float 1, .float 2] =
        (some [], some [1735689600000000]) ∧
      takenWithAndWithout none [.bool true, eleven] [.float 1, .float 2] = (some [], none) ∧
      takenWithAndWithout (some (.whole (10 ^ 9))) [eleven] [.float 1] = (none, some []) := by
  refine ⟨?_, ?_, ?_, ?_⟩
  all_goals decide +kernel

end AirQuality.OpenMeteo
