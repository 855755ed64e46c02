import AirQuality.Proofs.Cancellation
import AirQuality.Proofs.Fetch.Stateless
import AirQuality.Proofs.Guard.Providers

/-!
# Queries without a key

A query for measurements may leave out the canonical key under which they are to be grouped.  Then a
source finds the key out: from the parameters that the station lists, or, for Open-Meteo, from the
variable itself.  With a provider whose replies are fixed, to leave the key out comes to the same as
to give the key that is found out.
-/

namespace AirQuality

open Outcome
open Time (Moment)

variable {τ α : Type}

/-! ### Keys of listed parameters -/

/-- A parameter whose name is a text, or missing. -/
def Parameter.IsNamed (parameter : Parameter) : Prop :=
  parameter.rawName.kind = .null ∨ parameter.rawName.kind = .text

instance (parameter : Parameter) : Decidable parameter.IsNamed :=
  inferInstanceAs (Decidable (_ ∨ _))

theorem Parameter.IsNamed.exists_canonicalKey {parameter : Parameter}
    (hnamed : parameter.IsNamed) : ∃ key, parameter.canonicalKey = .ok key := by
  cases hkey : parameter.canonicalKey with
  | ok key => exact ⟨key, rfl⟩
  | error failure =>
      obtain ⟨⟨hnull, htext⟩, -⟩ := Parameter.canonicalKey_eq_error_iff.mp hkey
      exact absurd hnamed (not_or.mpr ⟨hnull, htext⟩)

namespace Query

/-- The query with another key, or with none. -/
def withKey (key : Option String) (query : Query) : Query := { query with parameterKey := key }

/-- The key of the first listed parameter with the id of a query; it is unknown if there is none. -/
def listedKey (listed : List Parameter) (query : Query) : Except Failure String :=
  match listed.find? fun parameter => parameter.id = query.parameterId with
  | some parameter => parameter.canonicalKey
  | none => .ok CanonicalKey.unknown

theorem exists_listedKey {listed : List Parameter} (query : Query)
    (hnamed : ∀ parameter ∈ listed, parameter.IsNamed) :
    ∃ key, query.listedKey listed = .ok key := by
  unfold listedKey
  split
  case h_1 parameter hfound =>
    exact (hnamed parameter (List.mem_of_find?_eq_some hfound)).exists_canonicalKey
  case h_2 => exact ⟨_, rfl⟩

end Query

/-- A source that has one outcome for a query, with a key or without. -/
def Source.GivesSame (fetch : Request → Fetching τ Json) (source : Source Plan) (query : Query)
    (key : String) : Prop :=
  ∃ outcome,
    Fetching.Settles (Work.perform fetch (source.measurements (query.withKey none))) outcome ∧
      Fetching.Settles (Work.perform fetch (source.measurements (query.withKey (some key)))) outcome

/-- A source that lists parameters for the station of a query and finds its key among them. -/
structure Source.Resolves (fetch : Request → Fetching τ Json) (source : Source Plan)
    (query : Query) (listed : List Parameter) : Prop where
  lists : Fetching.Settles (Work.perform fetch (source.parameters query.stationId)) (.ok listed)
  same : ∃ key, query.listedKey listed = .ok key ∧ source.GivesSame fetch query key

/-! ### Answers of guarded listings -/

namespace Work

variable (reply : Request → Except Failure Json)

/-- Work that asks first goes on with the reply, or fails as the reply does. -/
theorem run_answer_fetch_bind (url : String) (parameters : Option (List (String × Json)))
    (next : Json → Work α) :
    (fetch url parameters >>= next).run.answer reply =
      match reply ⟨url, parameters⟩ with
      | .ok payload => (next payload).run.answer reply
      | .error failure => .ok (.error failure) := by
  change Plan.answer reply (Plan.request _ _) = _
  simp only [Plan.answer]
  cases reply ⟨url, parameters⟩ with
  | ok payload => rfl
  | error failure => rfl

/-- A listing within a guard comes to what it lists, if it is not cancelled. -/
theorem answer_degrade_nil {topic : Log.Topic} {name : String} {work : Work (List α)}
    {outcome : Except Failure (List α)} (huncancelled : Uncancelled outcome)
    (houtcome : work.run.answer reply = .ok outcome) :
    answer reply (degrade topic name [] work) = .ok (listed outcome) := by
  rw [answer_degrade reply houtcome, degraded_of_uncancelled huncancelled, listed_eq]

end Work

variable {reply : Request → Except Failure Json}

namespace Gios

def sensorsRequest (stationId : String) : Request :=
  ⟨s!"{base}/station/sensors/{stationId}", none⟩

/-- The sensors that the reply to a request lists for a station. -/
def sensorsAt (reply : Request → Except Failure Json) (stationId : String) : List Parameter :=
  listed (reply (sensorsRequest stationId) >>= sensorsOf)

/-- A payload that does not count as anything lists no sensors. -/
theorem listed_sensorsOf_of_absent {payload : Json} (habsent : payload.isPresent = false) :
    listed (sensorsOf payload) = [] := by
  unfold sensorsOf
  cases payload with
  | object fields =>
      obtain rfl : fields = [] := by simpa [Json.isPresent] using habsent
      rfl
  | _ => rfl

theorem meets_sensor (record : Json) :
    Meets (fun _ => True) Failure.IsOfShape (sensor record) := by
  refine (Json.meets_fieldOrNull _ record).bind fun id _ => ?_
  refine (Json.meets_fieldOrNull _ record).bind fun rawName _ => ?_
  refine (Json.meets_fieldOrNull _ record).bind fun displayName _ => ?_
  exact (Json.meets_fieldOrNull _ record).bind fun description _ => trivial

theorem meets_sensorsOf (payload : Json) :
    Meets (fun _ => True) Failure.IsOfShape (sensorsOf payload) := by
  refine (Json.meets_fieldOrNull _ payload).bind fun sensors _ => ?_
  exact (Json.meets_elementsOrNone sensors).bind fun records _ => meets_mapM meets_sensor records

section

variable (huncancelled : ∀ request, Uncancelled (reply request))

include huncancelled

theorem answer_parameters (stationId : String) :
    (parameters stationId).answer reply = .ok (sensorsAt reply stationId) := by
  have hlisted := (huncancelled (sensorsRequest stationId)).bind fun payload =>
    (meets_sensorsOf payload).uncancelled
  unfold parameters sensorsAt
  unfold sensorsRequest at hlisted ⊢
  cases hreply : reply ⟨s!"{base}/station/sensors/{stationId}", none⟩ with
  | error failure =>
      rw [hreply] at hlisted
      apply Work.answer_degrade_nil _ hlisted
      rw [Work.run_answer_fetch_bind, hreply]
      rfl
  | ok payload =>
      rw [ok_bind]
      cases hpresent : payload.isPresent with
      | true =>
          apply Work.answer_degrade_nil _ (meets_sensorsOf payload).uncancelled
          rw [Work.run_answer_fetch_bind, hreply]
          simp only [hpresent]
          rfl
      | false =>
          rw [listed_sensorsOf_of_absent hpresent]
          change _ = Except.ok (listed (.ok []))
          apply Work.answer_degrade_nil _ (uncancelled_ok [])
          rw [Work.run_answer_fetch_bind, hreply]
          simp only [hpresent]
          rfl

theorem answer_lookUpKey (query : Query) :
    (lookUpKey query.stationId query.parameterId).answer reply =
      query.listedKey (sensorsAt reply query.stationId) := by
  unfold lookUpKey Query.listedKey
  rw [Work.answer_bind, answer_parameters huncancelled, ok_bind]
  cases (sensorsAt reply query.stationId).find? fun parameter =>
      parameter.id = query.parameterId with
  | some parameter => rfl
  | none => rfl

/-- Without a key the answer is the one with the key that is looked up. -/
theorem answer_measurements_withKey_none (now : Moment) (query : Query) {key : String}
    (hkey : query.listedKey (sensorsAt reply query.stationId) = .ok key) :
    (measurements now (query.withKey none)).answer reply =
      (measurements now (query.withKey (some key))).answer reply := by
  simp only [measurements, Query.withKey, Work.answer_bind, Work.answer_pure,
    answer_lookUpKey huncancelled, hkey, ok_bind]
  rfl

end

end Gios

namespace OpenAq

def sensorsRequest (stationId : String) : Request :=
  ⟨s!"{base}/locations/{stationId}/sensors", none⟩

/-- The sensors that a payload lists. -/
def sensorsOf (payload : Json) : Except Failure (List Parameter) := do
  (← (← resultsOf (payload.orElse (.object []))).elements).mapM sensor

/-- The sensors that the reply to a request lists for a location. -/
def sensorsAt (reply : Request → Except Failure Json) (stationId : String) : List Parameter :=
  listed (reply (sensorsRequest stationId) >>= sensorsOf)

theorem meets_objectField (field : String) (record : Json) :
    Meets (fun _ => True) Failure.IsOfShape (objectField field record) :=
  (Json.meets_fieldOrNull field record).bind fun _ _ => trivial

theorem meets_resultsOf (page : Json) :
    Meets (fun _ => True) Failure.IsOfShape (resultsOf page) :=
  (Json.meets_fieldOrNull _ page).bind fun _ _ => trivial

theorem meets_sensor (record : Json) :
    Meets (fun _ => True) Failure.IsOfShape (sensor record) := by
  refine (meets_objectField _ record).bind fun parameter _ => ?_
  refine (Json.meets_fieldOrNull _ record).bind fun id _ => ?_
  refine (Json.meets_fieldOrNull _ parameter).bind fun rawName _ => ?_
  refine (Json.meets_fieldOrNull _ parameter).bind fun shown _ => ?_
  refine (Json.meets_fieldOrNull _ record).bind fun sensorName _ => ?_
  exact (Json.meets_fieldOrNull _ parameter).bind fun unit _ => trivial

theorem meets_sensorsOf (payload : Json) :
    Meets (fun _ => True) Failure.IsOfShape (sensorsOf payload) := by
  refine Meets.bind (meets_resultsOf _) fun results _ => ?_
  exact (Json.meets_elements results).bind fun records _ => meets_mapM meets_sensor records

section

variable (huncancelled : ∀ request, Uncancelled (reply request))

include huncancelled

theorem answer_parameters (stationId : String) :
    (parameters true stationId).answer reply = .ok (sensorsAt reply stationId) := by
  have hlisted := (huncancelled (sensorsRequest stationId)).bind fun payload =>
    (meets_sensorsOf payload).uncancelled
  unfold parameters sensorsAt
  unfold sensorsRequest at hlisted ⊢
  apply Work.answer_degrade_nil _ hlisted
  simp only [withKey, if_true]
  rw [Work.run_answer_fetch_bind]
  cases reply ⟨s!"{base}/locations/{stationId}/sensors", none⟩ with
  | error failure => rfl
  | ok payload => rfl

theorem answer_lookUpKey (query : Query) :
    (lookUpKey true query.stationId query.parameterId).answer reply =
      query.listedKey (sensorsAt reply query.stationId) := by
  unfold lookUpKey Query.listedKey
  rw [Work.answer_bind, answer_parameters huncancelled, ok_bind]
  cases (sensorsAt reply query.stationId).find? fun parameter =>
      parameter.id = query.parameterId with
  | some parameter => rfl
  | none => rfl

/-- Without a key the answer is the one with the key that is looked up. -/
theorem answer_measurements_withKey_none (now : Moment) (pages : Nat) (query : Query)
    {key : String} (hkey : query.listedKey (sensorsAt reply query.stationId) = .ok key) :
    (measurements now true pages (query.withKey none)).answer reply =
      (measurements now true pages (query.withKey (some key))).answer reply := by
  simp only [measurements, withKey, if_true, Query.withKey, Work.answer_bind, Work.answer_pure,
    answer_lookUpKey huncancelled, hkey, ok_bind]
  rfl

end

end OpenAq

namespace OpenMeteo

/-- A variable has the canonical key of the parameter that it is listed as. -/
theorem Variable.canonicalKey_parameter (quantity : Variable) :
    quantity.parameter.canonicalKey = .ok quantity.canonicalKey := rfl

/-- Without a key the plan is the one with the key of the variable. -/
theorem measurementsAt_withKey_none (now : Moment) (query : Query) (point : Station)
    (quantity : Variable) :
    measurementsAt now (query.withKey none) point quantity =
      measurementsAt now (query.withKey (some quantity.canonicalKey)) point quantity := by
  have hkey : ((some quantity.canonicalKey).filter (· ≠ "")).getD quantity.canonicalKey =
      quantity.canonicalKey := by
    rw [Option.filter_some]
    split
    · rfl
    · rfl
  simp only [measurementsAt, Query.withKey, Option.filter_none, Option.getD_none, hkey]

theorem measurements_withKey_none (now : Moment) {points : List Station} {query : Query}
    {quantity : Variable} (hquantity : find? query.parameterId = some quantity) :
    measurements now points (query.withKey none) =
      measurements now points (query.withKey (some quantity.canonicalKey)) := by
  cases hpoint : points.find? fun point => point.id = query.stationId with
  | some point =>
      have hknown : ∀ key, measurements now points (query.withKey key) =
          measurementsAt now (query.withKey key) point quantity :=
        fun _ => measurements_of_known now hpoint hquantity
      rw [hknown, hknown, measurementsAt_withKey_none]
  | none =>
      have hunknown : ∀ key, measurements now points (query.withKey key) = pure [] :=
        fun _ => measurements_of_unknown now hpoint
      rw [hunknown, hunknown]

end OpenMeteo

/-! ### Sources -/

variable [Add τ] [Sub τ] [OfNat τ 0] [LT τ] [LE τ] [DecidableLT τ] [DecidableLE τ] [TimeText τ]

/-- With a provider whose replies are fixed, a source gives a query without a key the outcome that
it has with the key of the first parameter listed under its id, and with an unknown key if none is
listed, as when the listing fails.  The key of an Open-Meteo query is that of its variable. -/
theorem sources_resolve (fetcher : Fetcher τ) {remote : Remote τ} {upstream : Request → Reply}
    (hstateless : remote.IsStateless upstream) (now : Moment) (pages : Nat) (points : List Station)
    (offered : List OpenMeteo.Variable) (query : Query) :
    ((∀ parameter ∈ Gios.sensorsAt (fetcher.settled upstream) query.stationId,
        parameter.IsNamed) →
      (Gios.source now pages).Resolves (fetcher.fetch remote) query
        (Gios.sensorsAt (fetcher.settled upstream) query.stationId)) ∧
      ((∀ parameter ∈ OpenAq.sensorsAt (fetcher.settled upstream) query.stationId,
          parameter.IsNamed) →
        (OpenAq.source now true pages).Resolves (fetcher.fetch remote) query
          (OpenAq.sensorsAt (fetcher.settled upstream) query.stationId)) ∧
      ∀ quantity, OpenMeteo.find? query.parameterId = some quantity →
        quantity.parameter.canonicalKey = .ok quantity.canonicalKey ∧
          (OpenMeteo.source now points offered).GivesSame (fetcher.fetch remote) query
            quantity.canonicalKey := by
  have hsettled := fetcher.isSettled_fetch hstateless
  have huncancelled := fetcher.uncancelled_settled upstream
  refine ⟨fun hnamed => ⟨?_, ?_⟩, fun hnamed => ⟨?_, ?_⟩, fun quantity hquantity => ?_⟩
  · rw [← Gios.answer_parameters huncancelled]
    exact (Gios.reraises_parameters query.stationId).settles hsettled
  · obtain ⟨key, hkey⟩ := query.exists_listedKey hnamed
    have hgives := fun key =>
      (Gios.reraises_measurements now (query.withKey key)).settles hsettled
    refine ⟨key, hkey, _, hgives none, ?_⟩
    rw [Gios.answer_measurements_withKey_none huncancelled now query hkey]
    exact hgives (some key)
  · rw [← OpenAq.answer_parameters huncancelled]
    exact (OpenAq.reraises_parameters true query.stationId).settles hsettled
  · obtain ⟨key, hkey⟩ := query.exists_listedKey hnamed
    have hgives := fun key =>
      (OpenAq.reraises_measurements now true pages (query.withKey key)).settles hsettled
    refine ⟨key, hkey, _, hgives none, ?_⟩
    rw [OpenAq.answer_measurements_withKey_none huncancelled now pages query hkey]
    exact hgives (some key)
  · refine ⟨quantity.canonicalKey_parameter, _, ?_,
      (OpenMeteo.reraises_measurements now _ _).settles hsettled⟩
    rw [← OpenMeteo.measurements_withKey_none now hquantity]
    exact (OpenMeteo.reraises_measurements now _ _).settles hsettled

/-- A station at which GIOS has a sensor for dust and one without a name, and at which OpenAQ has
none; nothing else can be reached. -/
def dustSensor (request : Request) : Reply :=
  if request.url = (Gios.sensorsRequest "1").url then
    .answer 200 "OK" (.value (.object [(Gios.sensorsField, .list
      [.object [("Identyfikator stanowiska", .int 6)],
        .object [("Identyfikator stanowiska", .int 7), ("Wskaźnik - kod", .text "pm10")]])]))
  else if request.url = (OpenAq.sensorsRequest "1").url then .answer 404 "" (.value .null)
  else .fault .timeout "Timeout" ""

def dustQuery : Query := ⟨"1", "7", ⟨none, none⟩, none⟩

theorem sources_resolve_dustSensor :
    (Remote.ofReplies dustSensor : Remote ℤ).IsStateless dustSensor ∧
      (∀ parameter ∈ Gios.sensorsAt (Source.hasty.settled dustSensor) dustQuery.stationId,
        parameter.IsNamed) ∧
      (∀ parameter ∈ OpenAq.sensorsAt (Source.hasty.settled dustSensor) dustQuery.stationId,
        parameter.IsNamed) ∧
      dustQuery.listedKey (Gios.sensorsAt (Source.hasty.settled dustSensor) "1") = .ok "PM10" ∧
      (Gios.source Source.epoch 1).GivesSame (Source.hasty.fetch (.ofReplies dustSensor)) dustQuery
        "PM10" ∧
      (OpenAq.source Source.epoch true 1).GivesSame (Source.hasty.fetch (.ofReplies dustSensor))
        dustQuery CanonicalKey.unknown := by
  have hgios : ∀ parameter ∈ Gios.sensorsAt (Source.hasty.settled dustSensor) dustQuery.stationId,
      parameter.IsNamed := by decide +kernel
  have hopenAq : ∀ parameter ∈
      OpenAq.sensorsAt (Source.hasty.settled dustSensor) dustQuery.stationId,
      parameter.IsNamed := by decide +kernel
  have hstateless : (Remote.ofReplies dustSensor : Remote ℤ).IsStateless dustSensor :=
    Remote.isStateless_ofReplies dustSensor
  obtain ⟨hgiosSame, hopenAqSame, -⟩ := sources_resolve Source.hasty hstateless Source.epoch 1 []
    [] dustQuery
  obtain ⟨key, hkey, hsame⟩ := (hgiosSame hgios).same
  obtain ⟨other, hother, hsameOther⟩ := (hopenAqSame hopenAq).same
  have hfound : dustQuery.listedKey (Gios.sensorsAt (Source.hasty.settled dustSensor) "1") =
      .ok "PM10" := rfl
  have hnone : dustQuery.listedKey (OpenAq.sensorsAt (Source.hasty.settled dustSensor) "1") =
      .ok CanonicalKey.unknown := rfl
  obtain rfl := Except.ok.inj (hkey.symm.trans hfound)
  obtain rfl := Except.ok.inj (hother.symm.trans hnone)
  exact ⟨hstateless, hgios, hopenAq, hfound, hsame, hsameOther⟩

end AirQuality
