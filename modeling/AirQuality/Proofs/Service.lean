import AirQuality.Proofs.Collection.Listed
import AirQuality.Proofs.Registry
import AirQuality.Proofs.Summary.Keys
import AirQuality.Service

/-!
# Statuses that tell the truth

A caller's mistakes are found before a source is asked for anything.  Once the region is found and
the sources are made, nothing that a source does gets out: the response is the report if a
measurement is listed, and says that there is no data if none is.
-/

namespace AirQuality

open Outcome
open Stage (OnlyNotes bind_apply)

variable {ω α β : Type}

/-! ### Work before the first call -/

namespace Stage

theorem noteAll_onlyNotes (entries : List Log.Entry) :
    OnlyNotes (Watched.noteAll entries : StateM (Stage ω) Unit) () := by
  induction entries with
  | nil => exact OnlyNotes.pure ()
  | cons entry rest ih => exact OnlyNotes.bind (fun stage => ⟨stage.entries ++ [entry], rfl⟩) ih

theorem ofLogged_onlyNotes (work : Logged α) :
    OnlyNotes (Watched.ofLogged work : ExceptT Failure (StateM (Stage ω)) α).run (work []).1 :=
  (noteAll_onlyNotes (work []).2).bind (OnlyNotes.pure _)

/-- Work goes on with a value from a stage on which nothing but entries has changed. -/
theorem OnlyNotes.run_bind_ok {work : ExceptT Failure (StateM (Stage ω)) α} {value : α}
    (hwork : OnlyNotes work.run (.ok value))
    (next : α → ExceptT Failure (StateM (Stage ω)) β) (stage : Stage ω) :
    ∃ noted, stage.Alike noted ∧ (work >>= next).run stage = (next value).run noted := by
  obtain ⟨entries, hrun⟩ := hwork stage
  refine ⟨{ stage with entries := entries }, ⟨rfl, rfl, rfl⟩, ?_⟩
  rw [ExceptT.run_bind, bind_apply, hrun]

theorem OnlyNotes.run_bind_error {work : ExceptT Failure (StateM (Stage ω)) α} {failure : Failure}
    (hwork : OnlyNotes work.run (.error failure))
    (next : α → ExceptT Failure (StateM (Stage ω)) β) (stage : Stage ω) :
    ∃ noted, stage.Alike noted ∧ (work >>= next).run stage = (.error failure, noted) := by
  obtain ⟨entries, hrun⟩ := hwork stage
  refine ⟨{ stage with entries := entries }, ⟨rfl, rfl, rfl⟩, ?_⟩
  rw [ExceptT.run_bind, bind_apply, hrun]
  rfl

theorem trace_run (topic : Log.Topic) (name : String)
    (work : ExceptT Failure (StateM (Stage ω)) α) (stage : Stage ω) :
    ∃ noted, stage.Alike noted ∧
      ((Watched.trace topic name work).run stage).1 = (work.run noted).1 ∧
      (work.run noted).2.Alike ((Watched.trace topic name work).run stage).2 := by
  let noted : Stage ω :=
    { stage with entries := stage.entries ++ [⟨.info, topic, s!"Calling {name}"⟩] }
  refine ⟨noted, ⟨rfl, rfl, rfl⟩, ?_⟩
  unfold Watched.trace
  rw [ExceptT.run_mk, bind_apply, bind_apply]
  have hnoted : (Watched.note ⟨.info, topic, s!"Calling {name}"⟩ : StateM (Stage ω) Unit) stage =
      ((), noted) := rfl
  rw [hnoted]
  cases (work.run noted).1 with
  | ok value => exact ⟨rfl, rfl, rfl, rfl⟩
  | error failure => exact ⟨rfl, rfl, rfl, rfl⟩

end Stage

/-- The failure of a report without data. -/
def Failure.IsOfNoData : Failure → Prop
  | .nothingAggregated _ => True
  | _ => False

namespace Service

open Aggregation (answers parts)

/-- What is asked of the sources for an order. -/
def asking (settings : Settings) (order : Order) : Aggregation.Settings :=
  ⟨limits settings order, settings.maxWorkers⟩

/-- The region of an order is found, and its sources are made and can be asked. -/
structure IsReady (settings : Settings) (table : List Region) (registry : Registry (Conduct ω))
    (order : Order) (region : Region) (conducts : List (Conduct ω)) : Prop where
  region : Region.find order.region table = .ok region
  sources : (registry.createAdapters order.sources settings []).1 = .ok conducts
  workers : conducts = [] ∨ 0 ≤ (asking settings order).workers conducts.length

/-! ### Orders in two parts -/

section

variable {m : Type → Type} [Monad m] [Watched m]

/-- Finds the region of an order and makes its sources. -/
def preparing (files : (path : String) → TextFile) (settings : Settings)
    (registry : Registry (Source m)) (order : Order) :
    ExceptT Failure m (Region × List (Source m)) := do
  let table ← Watched.ofLogged (regionTable files settings)
  let region ← Watched.lift (Region.find order.region table)
  let sources ← Watched.ofLogged (registry.createAdapters order.sources settings)
  pure (region, sources)

/-- Makes a report that has data. -/
def reporting (settings : Settings) (order : Order) (prepared : Region × List (Source m)) :
    ExceptT Failure m Report := do
  let report ← Aggregation.report (asking settings order) prepared.2 prepared.1
  Watched.lift (nonempty report)

theorem aggregate_eq [LawfulMonad m] (files : (path : String) → TextFile) (settings : Settings)
    (registry : Registry (Source m)) (order : Order) :
    aggregate files (.ok settings) registry order = Watched.trace .service "aggregate"
      (preparing files settings registry order >>= reporting settings order) := by
  have hsettings : (Watched.lift (.ok settings) : ExceptT Failure m Settings) = pure settings := rfl
  simp only [aggregate, preparing, reporting, hsettings, asking, bind_assoc, pure_bind]

end

/-- The region of an order and its sources, or what keeps them from being found or made. -/
def prepared (table : List Region) (settings : Settings) (registry : Registry α) (order : Order) :
    Except Failure (Region × List α) := do
  let region ← Region.find order.region table
  let adapters ← (registry.createAdapters order.sources settings []).1
  pure (region, adapters)

theorem prepared_seen (see : α → β) (table : List Region) (settings : Settings)
    (registry : Registry α) (order : Order) :
    prepared table settings (registry.seen see) order =
      (prepared table settings registry order).map fun made => (made.1, made.2.map see) := by
  unfold prepared
  rw [Registry.createAdapters_seen, Logged.map_apply]
  cases Region.find order.region table with
  | error failure => rfl
  | ok region =>
      cases (registry.createAdapters order.sources settings []).1 with
      | error failure => rfl
      | ok adapters => rfl

section

variable {files : (path : String) → TextFile} {settings : Settings} {table : List Region}
  {registry : Registry (Conduct ω)} {order : Order}

theorem preparing_onlyNotes (htable : (regionTable files settings []).1 = .ok table)
    (registry : Registry (Conduct ω)) (order : Order) :
    OnlyNotes (preparing files settings (registry.seen Conduct.source) order).run
      ((prepared table settings registry order).map fun made =>
        (made.1, made.2.map Conduct.source)) := by
  rw [← prepared_seen, ← ok_bind table (prepared · settings (registry.seen Conduct.source) order),
    ← htable]
  apply OnlyNotes.run_bind (Stage.ofLogged_onlyNotes _)
  intro table
  apply OnlyNotes.run_bind (OnlyNotes.pure _)
  intro region
  exact OnlyNotes.run_bind (Stage.ofLogged_onlyNotes _) fun _ => OnlyNotes.pure _

theorem aggregate_run (files : (path : String) → TextFile) (settings : Settings)
    (registry : Registry (Source (StateM (Stage ω)))) (order : Order) (stage : Stage ω) :
    let run := (aggregate files (.ok settings) registry order).run stage
    let work := preparing files settings registry order >>= reporting settings order
    ∃ started, stage.Alike started ∧ run.1 = (work.run started).1 ∧
      (work.run started).2.Alike run.2 := by
  rw [aggregate_eq]
  exact Stage.trace_run .service "aggregate" _ stage

/-- What keeps an order from being prepared is what it comes to, before any call. -/
theorem aggregate_of_unprepared (htable : (regionTable files settings []).1 = .ok table)
    {failure : Failure} (hfailed : prepared table settings registry order = .error failure)
    (stage : Stage ω) :
    let run := (aggregate files (.ok settings) (registry.seen Conduct.source) order).run stage
    run.1 = .error failure ∧ stage.Alike run.2 := by
  have hpreparing := preparing_onlyNotes htable registry order
  rw [hfailed] at hpreparing
  obtain ⟨started, hstarted, houtcome, hafter⟩ :=
    aggregate_run files settings (registry.seen Conduct.source) order stage
  obtain ⟨noted, hnoted, hrun⟩ :=
    Stage.OnlyNotes.run_bind_error hpreparing (reporting settings order) started
  rw [hrun] at houtcome hafter
  exact ⟨houtcome, (hstarted.trans hnoted).trans hafter⟩

theorem reporting_run (settings : Settings) (order : Order)
    (made : Region × List (Source (StateM (Stage ω)))) (stage : Stage ω) :
    (reporting settings order made).run stage =
      let reported := (Aggregation.report (asking settings order) made.2 made.1).run stage
      (reported.1 >>= nonempty, reported.2) := by
  rw [reporting, ExceptT.run_bind, bind_apply]
  dsimp only
  cases ((Aggregation.report (asking settings order) made.2 made.1).run stage).1 with
  | ok report => rfl
  | error failure => rfl

/-- A prepared order comes to a report, if that has data. -/
theorem aggregate_of_prepared (htable : (regionTable files settings []).1 = .ok table)
    {region : Region} {conducts : List (Conduct ω)}
    (hprepared : prepared table settings registry order = .ok (region, conducts))
    (stage : Stage ω) :
    let run := (aggregate files (.ok settings) (registry.seen Conduct.source) order).run stage
    ∃ noted, stage.Alike noted ∧
      let reported := (Aggregation.report (asking settings order) (conducts.map Conduct.source)
        region).run noted
      run.1 = (reported.1 >>= nonempty) ∧ reported.2.Alike run.2 := by
  have hpreparing := preparing_onlyNotes htable registry order
  rw [hprepared] at hpreparing
  obtain ⟨started, hstarted, houtcome, hafter⟩ :=
    aggregate_run files settings (registry.seen Conduct.source) order stage
  obtain ⟨noted, hnoted, hrun⟩ :=
    Stage.OnlyNotes.run_bind_ok hpreparing (reporting settings order) started
  rw [hrun, reporting_run] at houtcome hafter
  exact ⟨noted, hstarted.trans hnoted, houtcome, hafter⟩

/-! ### Reports -/

/-- The report of sources that can be asked is the summary of what they contribute. -/
theorem report_eq (asked : Aggregation.Settings) {conducts : List (Conduct ω)}
    (hworkers : conducts = [] ∨ 0 ≤ asked.workers conducts.length) (region : Region)
    {stage noted : Stage ω} (hnoted : stage.Alike noted) :
    let reported := (Aggregation.report asked (conducts.map Conduct.source) region).run noted
    reported.1 = (Summary.ofContributions (parts region asked.limits (conducts.map Conduct.source)
      stage).1.flatten).map (Report.mk region) := by
  cases hworkers with
  | inl hnil =>
      subst hnil
      rfl
  | inr hworkers =>
      obtain ⟨hreport, -⟩ := Aggregation.report_eq_parts hworkers region noted
      obtain ⟨⟨hsame, -⟩, -⟩ := Aggregation.parts_alikeBy
        (Aggregation.forall₂_matches_self conducts) region asked.limits hnoted
      rw [hsame]
      exact hreport

/-- Sources that list sound measurements have a report, which is empty exactly if they list none. -/
theorem exists_report (asked : Aggregation.Settings) {conducts : List (Conduct ω)}
    (hworkers : conducts = [] ∨ 0 ≤ asked.workers conducts.length) (region : Region)
    {stage noted : Stage ω} (hnoted : stage.Alike noted)
    (hsound : ∀ measurement ∈ (answers region asked.limits conducts stage).flatMap Answer.listed,
      measurement.IsSound) :
    ∃ report,
      ((Aggregation.report asked (conducts.map Conduct.source) region).run noted).1 = .ok report ∧
      report.region = region ∧
      (report.summaries = [] ↔
        (answers region asked.limits conducts stage).flatMap Answer.listed = []) := by
  rw [← Aggregation.measurementsOf_parts] at hsound ⊢
  have hreport := report_eq asked hworkers region hnoted
  have hkeyed : ∀ contribution ∈ (parts region asked.limits (conducts.map Conduct.source)
      stage).1.flatten, contribution.IsKeyed := fun _ hmem => Aggregation.isKeyed_of_mem_parts hmem
  generalize (parts region asked.limits (conducts.map Conduct.source) stage).1.flatten =
    contributions at *
  have hgiven : ∀ contribution ∈ contributions, contribution.IsSound :=
    fun contribution hmem measurement hmeasurement =>
      hsound measurement (Contribution.mem_measurementsOf.mpr ⟨contribution, hmem, hmeasurement⟩)
  have hnumbers : ∀ contribution ∈ contributions, ∀ measurement ∈ contribution.measurements,
      Column.IsNumber measurement.value :=
    fun contribution hmem measurement hmeasurement =>
      (hgiven contribution hmem measurement hmeasurement).value
  obtain ⟨summaries, hsummaries⟩ := Summary.exists_ofContributions hkeyed hgiven
  obtain ⟨-, rfl⟩ := (Summary.ofContributions_eq_ok_iff hkeyed hnumbers).mp hsummaries
  rw [hsummaries] at hreport
  exact ⟨⟨region, _⟩, hreport, rfl, Summary.summariesOf_eq_nil_iff⟩

/-! ### Responses -/

theorem response_run (files : (path : String) → TextFile) (settings : Except Failure Settings)
    (registry : Registry (Source (StateM (Stage ω)))) (order : Order) (stage : Stage ω) :
    let run := (aggregate files settings registry order).run stage
    (response files settings registry order).run stage = (respond run.1, run.2) := rfl

theorem respond_error {failure : Failure} (hdata : ¬failure.IsOfNoData) :
    respond (.error failure) =
      if failure.isClientError then .ok ⟨400, errorBody failure⟩ else .error failure := by
  cases failure with
  | nothingAggregated region => exact (hdata trivial).elim
  | _ => rfl

theorem isReady_iff {region : Region} {conducts : List (Conduct ω)} :
    IsReady settings table registry order region conducts ↔
      prepared table settings registry order = .ok (region, conducts) ∧
        (conducts = [] ∨ 0 ≤ (asking settings order).workers conducts.length) := by
  constructor
  · rintro ⟨hregion, hsources, hworkers⟩
    refine ⟨?_, hworkers⟩
    rw [prepared, hregion, ok_bind, hsources]
    rfl
  · rintro ⟨hprepared, hworkers⟩
    obtain ⟨found, hregion, hrest⟩ := bind_eq_ok hprepared
    obtain ⟨made, hsources, hdone⟩ := bind_eq_ok hrest
    cases hdone
    exact ⟨hregion, hsources, hworkers⟩

/-- What keeps an order from being prepared is a mistake of the caller or a failure to make a
source. -/
theorem not_isOfNoData_of_unprepared
    (hcreate : ∀ entry ∈ registry, (entry.2.create settings).FailsOnly (¬·.IsOfNoData))
    {failure : Failure} (hfailed : prepared table settings registry order = .error failure) :
    ¬failure.IsOfNoData := by
  rcases bind_eq_error hfailed with hregion | ⟨region, -, hrest⟩
  · unfold Region.find at hregion
    cases hfound : table.find? fun region =>
        Region.identifier region.name = Region.identifier order.region with
    | some region =>
        rw [hfound] at hregion
        cases hregion
    | none =>
        rw [hfound] at hregion
        obtain rfl := Except.error.inj hregion
        exact not_false
  · cases bind_eq_error hrest with
    | inl hsources =>
        have hmade :=
          Registry.failsOnly_createAdapters (fun _ => not_false) hcreate order.sources []
        rw [hsources] at hmade
        exact hmade
    | inr hmade =>
        obtain ⟨adapters, -, hdone⟩ := hmade
        cases hdone

/-- An order that is not ready comes to a mistake of the caller, or to another failure that gets
out, and no call is made for it. -/
theorem response_of_not_isReady (htable : (regionTable files settings []).1 = .ok table)
    (hcreate : ∀ entry ∈ registry, (entry.2.create settings).FailsOnly (¬·.IsOfNoData))
    (hnone : ∀ region conducts, ¬IsReady settings table registry order region conducts)
    (stage : Stage ω) :
    let served := (response files (.ok settings) (registry.seen Conduct.source) order).run stage
    served.2.calls = stage.calls ∧ ∃ failure, served.1 =
      if failure.isClientError then .ok ⟨400, errorBody failure⟩ else .error failure := by
  dsimp only
  rw [response_run]
  cases hprepared : prepared table settings registry order with
  | error failure =>
      obtain ⟨houtcome, halike⟩ := aggregate_of_unprepared htable hprepared stage
      refine ⟨halike.calls.symm, failure, ?_⟩
      rw [houtcome]
      exact respond_error (not_isOfNoData_of_unprepared hcreate hprepared)
  | ok made =>
      obtain ⟨region, conducts⟩ := made
      have hworkers : ¬(conducts = [] ∨ 0 ≤ (asking settings order).workers conducts.length) :=
        fun hworkers => hnone region conducts (isReady_iff.mpr ⟨hprepared, hworkers⟩)
      obtain ⟨hsome, hfew⟩ := not_or.mp hworkers
      obtain ⟨noted, hnoted, houtcome, halike⟩ := aggregate_of_prepared htable hprepared stage
      obtain ⟨entries, hrefused⟩ :=
        Aggregation.report_refused hsome (Int.not_le.mp hfew) region noted
      rw [hrefused] at houtcome halike
      refine ⟨halike.calls.symm.trans hnoted.calls.symm, .argument .tooFewWorkers, ?_⟩
      rw [houtcome]
      rfl

/-- An order that is ready is responded to by what the sources list. -/
theorem response_of_isReady (htable : (regionTable files settings []).1 = .ok table)
    {region : Region} {conducts : List (Conduct ω)}
    (hready : IsReady settings table registry order region conducts) {stage : Stage ω}
    (hsound : ∀ measurement ∈ (answers region (limits settings order) conducts stage).flatMap
      Answer.listed, measurement.IsSound) :
    let served := (response files (.ok settings) (registry.seen Conduct.source) order).run stage
    let listed := (answers region (limits settings order) conducts stage).flatMap Answer.listed
    ∃ report, ((Aggregation.report (asking settings order) (conducts.map Conduct.source)
        region).run stage).1 = .ok report ∧
      served.1 = .ok (if listed = [] then ⟨500, errorBody (.nothingAggregated region.name)⟩
        else ⟨200, report.toJson⟩) := by
  intro served listed
  obtain ⟨hprepared, hworkers⟩ := isReady_iff.mp hready
  obtain ⟨noted, hnoted, houtcome, -⟩ := aggregate_of_prepared htable hprepared stage
  obtain ⟨report, hreport, hregion, hempty⟩ :=
    exists_report (asking settings order) hworkers region hnoted hsound
  have hstage := report_eq (asking settings order) hworkers region (Stage.Alike.refl stage)
  rw [← report_eq (asking settings order) hworkers region hnoted, hreport] at hstage
  refine ⟨report, hstage, ?_⟩
  have hserved : served.1 = respond (nonempty report) := by
    have hrun : served = _ := response_run _ _ _ _ _
    rw [hrun, houtcome, hreport]
    rfl
  rw [hserved, nonempty, Report.isEmpty]
  by_cases hlisted : listed = []
  · rw [if_pos hlisted, if_pos (List.isEmpty_iff.mpr (hempty.mpr hlisted)), hregion]
    rfl
  · rw [if_neg hlisted, if_neg (mt List.isEmpty_iff.mp (mt hempty.mp hlisted))]
    rfl

theorem IsReady.iff_eq {region other : Region} {conducts others : List (Conduct ω)}
    (hready : IsReady settings table registry order region conducts) :
    IsReady settings table registry order other others ↔ other = region ∧ others = conducts := by
  constructor
  · intro hother
    exact ⟨Except.ok.inj (hother.region.symm.trans hready.region),
      Except.ok.inj (hother.sources.symm.trans hready.sources)⟩
  · rintro ⟨rfl, rfl⟩
    exact hready

/-- With a table of regions that can be read, with factories that fail for reasons of their own, and
with sources that may do anything but list unsound measurements, a response has status 200 exactly
if the order is ready and a measurement is listed, and its body is the report.  It has status 500
exactly if the order is ready and none is listed.  If it has status 400, or if a failure gets out,
no call was made, and no mistake of the caller gets out. -/
theorem response_tells (htable : (regionTable files settings []).1 = .ok table)
    (hcreate : ∀ entry ∈ registry, (entry.2.create settings).FailsOnly (¬·.IsOfNoData))
    {stage : Stage ω}
    (hsound : ∀ region conducts, IsReady settings table registry order region conducts →
      ∀ measurement ∈ (answers region (limits settings order) conducts stage).flatMap
        Answer.listed, measurement.IsSound) :
    let served := (response files (.ok settings) (registry.seen Conduct.source) order).run stage
    let reported region conducts := ((Aggregation.report (asking settings order)
      (conducts.map Conduct.source) region).run stage).1
    let listed region conducts :=
      (answers region (limits settings order) conducts stage).flatMap Answer.listed
    (∀ region conducts, IsReady settings table registry order region conducts →
      ∃ report, reported region conducts = .ok report) ∧
    (∀ body, served.1 = .ok ⟨200, body⟩ ↔ ∃ region conducts report,
      IsReady settings table registry order region conducts ∧ listed region conducts ≠ [] ∧
        reported region conducts = .ok report ∧ report.toJson = body) ∧
    (∀ body, served.1 = .ok ⟨500, body⟩ ↔ ∃ region conducts,
      IsReady settings table registry order region conducts ∧ listed region conducts = [] ∧
        errorBody (.nothingAggregated region.name) = body) ∧
    (∀ body, served.1 = .ok ⟨400, body⟩ → served.2.calls = stage.calls ∧
      ∃ failure, failure.isClientError = true ∧ errorBody failure = body) ∧
    ∀ failure, served.1 = .error failure →
      failure.isClientError = false ∧ served.2.calls = stage.calls := by
  intro served reported listed
  by_cases hready : ∃ region conducts, IsReady settings table registry order region conducts
  · obtain ⟨region, conducts, hready⟩ := hready
    obtain ⟨report, hreport, hserved⟩ :=
      response_of_isReady htable hready (hsound region conducts hready)
    change reported region conducts = .ok report at hreport
    change served.1 = .ok (if listed region conducts = [] then _ else _) at hserved
    by_cases hnone : listed region conducts = []
    · rw [if_pos hnone] at hserved
      simp [hserved, hready.iff_eq, hreport, hnone]
    · rw [if_neg hnone] at hserved
      simp [hserved, hready.iff_eq, hreport, hnone]
  · have hnone : ∀ region conducts, ¬IsReady settings table registry order region conducts :=
      fun region conducts hother => hready ⟨region, conducts, hother⟩
    obtain ⟨hcalls, failure, hserved⟩ := response_of_not_isReady htable hcreate hnone stage
    change served.2.calls = stage.calls at hcalls
    change served.1 = _ at hserved
    cases hmistake : failure.isClientError with
    | true =>
        have hbody : ∃ other : Failure, other.isClientError = true ∧
            errorBody other = errorBody failure := ⟨failure, hmistake, rfl⟩
        rw [hmistake, if_pos rfl] at hserved
        simpa [hserved, hnone, hcalls] using hbody
    | false =>
        rw [hmistake, if_neg Bool.false_ne_true] at hserved
        simp [hserved, hnone, hcalls, hmistake]

end

/-! ### The built-in sources -/

/-- A place without files. -/
def bare : Context := ⟨fun path => ⟨path, none⟩, ⟨0, none⟩, 1⟩

def dolnoslaskie : Order := ⟨"Dolnoslaskie", none, none, none⟩

/-- A source with one station, which is in the region, and what comes of asking it for
measurements. -/
def wroclaw (outcome : Except Failure (List Measurement)) : Conduct Unit where
  name := "GIOS"
  stations _ := ⟨.ok [⟨"s1", .null, .int 51, .int 17, "GIOS"⟩], (), false⟩
  parameters _ _ := ⟨.ok [Aggregation.dust], (), false⟩
  measurements _ _ := ⟨outcome, (), false⟩

/-- The built-in registry with such a source in each place. -/
def wroclawOnly (outcome : Except Failure (List Measurement)) : Registry (Conduct Unit) :=
  (Provider.registry bare).seen fun _ => wroclaw outcome

def served (outcome : Except Failure (List Measurement)) : Except Failure Response :=
  ((response bare.files (.ok .defaults) ((wroclawOnly outcome).seen Conduct.source)
    dolnoslaskie).run (.fresh ())).1

theorem wroclaw_isReady (outcome : Except Failure (List Measurement)) :
    IsReady .defaults Region.voivodeships (wroclawOnly outcome) dolnoslaskie
      (Region.voivodeships.head (by decide +kernel)) (List.replicate 3 (wroclaw outcome)) :=
  ⟨rfl, rfl, .inr (Int.natCast_nonneg 3)⟩

theorem failsOnly_wroclawOnly (outcome : Except Failure (List Measurement)) :
    ∀ entry ∈ wroclawOnly outcome,
      (entry.2.create .defaults).FailsOnly (¬·.IsOfNoData) := by
  apply Registry.failsOnly_seen
  intro entry hmem
  apply (Provider.failsOnly_create bare .defaults entry hmem).mono
  rintro failure ⟨⟩ <;> exact not_false

/-- What the three sources list in answer to the calls for an order. -/
def heard (outcome : Except Failure (List Measurement)) : List Measurement :=
  (answers (Region.voivodeships.head (by decide +kernel)) (limits .defaults dolnoslaskie)
    (List.replicate 3 (wroclaw outcome)) (.fresh ())).flatMap Answer.listed

theorem isSound_wroclaw {outcome : Except Failure (List Measurement)}
    (houtcome : ∀ items, outcome = .ok items → ∀ measurement ∈ items, measurement.IsSound) :
    ∀ region conducts, IsReady .defaults Region.voivodeships (wroclawOnly outcome) dolnoslaskie
      region conducts → ∀ measurement ∈ (answers region (limits .defaults dolnoslaskie) conducts
        (.fresh ())).flatMap Answer.listed, measurement.IsSound := by
  intro region conducts hready measurement hmem
  obtain ⟨-, rfl⟩ := (wroclaw_isReady outcome).iff_eq.mp hready
  obtain ⟨conduct, hconduct, query, world, items, hitems, hitem⟩ :=
    Aggregation.exists_listing_of_mem_answers hmem
  obtain rfl := List.eq_of_mem_replicate hconduct
  exact houtcome items hitems measurement hitem

/-- The response has the report of what is listed.  If each call for measurements fails, even in
the way in which a caller's mistake does, there is no data. -/
theorem response_tells_wroclaw :
    (∃ body, served (.ok [Aggregation.dustAt "s1"]) = .ok ⟨200, body⟩) ∧
      ∃ body, served (.error (.unknownRegion "s1" [])) = .ok ⟨500, body⟩ := by
  have htable : (regionTable bare.files .defaults []).1 = .ok Region.voivodeships := rfl
  constructor
  · have hsound : ∀ items,
        (.ok [Aggregation.dustAt "s1"] : Except Failure (List Measurement)) = .ok items →
          ∀ measurement ∈ items, measurement.IsSound := by
      rintro items ⟨⟩
      exact Aggregation.dustFrom_isSound "s1"
    obtain ⟨hreport, hsuccess, -⟩ :=
      response_tells htable (failsOnly_wroclawOnly _) (isSound_wroclaw hsound)
    have hready := wroclaw_isReady (.ok [Aggregation.dustAt "s1"])
    have hlength : (heard (.ok [Aggregation.dustAt "s1"])).length = 3 := by decide +kernel
    have hsome : heard (.ok [Aggregation.dustAt "s1"]) ≠ [] := by
      intro hnone
      rw [hnone] at hlength
      cases hlength
    obtain ⟨report, hreport⟩ := hreport _ _ hready
    exact ⟨_, (hsuccess _).mpr ⟨_, _, report, hready, hsome, hreport, rfl⟩⟩
  · obtain ⟨-, -, hfailure, -⟩ :=
      response_tells htable (failsOnly_wroclawOnly (.error (.unknownRegion "s1" [])))
        (isSound_wroclaw nofun)
    have hready := wroclaw_isReady (.error (.unknownRegion "s1" []))
    have hnone : heard (.error (.unknownRegion "s1" [])) = [] :=
      List.length_eq_zero_iff.mp (by decide +kernel)
    exact ⟨_, (hfailure _).mpr ⟨_, _, hready, hnone, rfl⟩⟩

end Service

end AirQuality
