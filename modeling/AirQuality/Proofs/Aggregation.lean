import Mathlib.Data.List.Forall2
import AirQuality.Proofs.Collection.Cancellation
import AirQuality.Proofs.Collection.Failures

/-!
# Reports of sources that fail

The report of a region is the summary of what its sources contribute one after the other.  A
call that fails counts as one that lists nothing: the report is the same, the same calls are
made, and no failure of a call gets out.
-/

namespace AirQuality.Aggregation

open Outcome
open Stage (AlikeBy bind_apply)

variable {ω : Type}

section Parts

variable {m : Type → Type} [Monad m] [Watched m]

/-- What each source contributes, in their order. -/
def parts (region : Region) (limits : Limits) : List (Source m) → m (List (List Contribution))
  | [] => pure []
  | source :: rest => do
    let first ← Collection.ofSource region limits source
    let others ← parts region limits rest
    pure (first.contributions :: others)

/-- What is left to do once everything is collected. -/
def conclude (region : Region) (contributions : List Contribution) : ExceptT Failure m Report := do
  let summaries ← Watched.lift (Summary.ofContributions contributions)
  Watched.info .aggregation (endText region summaries contributions)
  pure ⟨region, summaries⟩

end Parts

theorem collect_eq_flatten (region : Region) (limits : Limits)
    (sources : List (Source (StateM (Stage ω)))) (stage : Stage ω) :
    collect region limits sources stage =
      ((parts region limits sources stage).1.flatten, (parts region limits sources stage).2) := by
  induction sources generalizing stage with
  | nil => rfl
  | cons source rest ih =>
      unfold collect parts
      rw [bind_apply, bind_apply, bind_apply, bind_apply, ih]
      rfl

theorem parts_cons_apply (region : Region) (limits : Limits)
    (source : Source (StateM (Stage ω))) (rest : List (Source (StateM (Stage ω))))
    (stage : Stage ω) :
    parts region limits (source :: rest) stage =
      ((Collection.ofSource region limits source stage).1.contributions ::
          (parts region limits rest (Collection.ofSource region limits source stage).2).1,
        (parts region limits rest (Collection.ofSource region limits source stage).2).2) := rfl

/-- Sources that collect the same contribute the same parts. -/
theorem parts_alikeBy_of_collected {conducts others : List (Conduct ω)} {region : Region}
    {limits : Limits}
    (hcollected : List.Forall₂ (fun conduct other => AlikeBy Collection.Agree
      (Collection.ofSource region limits (Conduct.source conduct))
      (Collection.ofSource region limits (Conduct.source other))) conducts others) :
    AlikeBy (fun given changed => given = changed ∧
        ∀ contribution ∈ given.flatten, contribution.IsKeyed)
      (parts region limits (conducts.map Conduct.source))
      (parts region limits (others.map Conduct.source)) := by
  induction hcollected with
  | nil => exact AlikeBy.pure ⟨rfl, fun _ hmem => nomatch hmem⟩
  | cons hsource _ ih =>
      apply AlikeBy.bind hsource
      intro first other hfirst
      apply AlikeBy.bind ih
      intro given changed hgiven
      apply AlikeBy.pure
      obtain ⟨hsame, hkeyed⟩ := hgiven
      constructor
      · rw [hfirst.same, hsame]
      · intro contribution hmem
        rw [List.flatten_cons, List.mem_append] at hmem
        exact hmem.elim (hfirst.isKeyed contribution) (hkeyed contribution)

/-- The parts that sources contribute are the same with failures taken for no data. -/
theorem parts_alikeBy {conducts others : List (Conduct ω)}
    (hmatches : List.Forall₂ Conduct.Matches conducts others) (region : Region)
    (limits : Limits) :
    AlikeBy (fun given changed => given = changed ∧
        ∀ contribution ∈ given.flatten, contribution.IsKeyed)
      (parts region limits (conducts.map Conduct.source))
      (parts region limits (others.map Conduct.source)) :=
  parts_alikeBy_of_collected
    (hmatches.imp fun _ _ hmatch => Collection.ofSource_alikeBy hmatch region limits)

theorem forall₂_matches_self (conducts : List (Conduct ω)) :
    List.Forall₂ Conduct.Matches conducts conducts :=
  List.forall₂_same.mpr fun conduct _ => Conduct.Matches.refl conduct

theorem forall₂_matches_withoutFailures (conducts : List (Conduct ω)) :
    List.Forall₂ Conduct.Matches conducts (conducts.map Conduct.withoutFailures) :=
  List.forall₂_map_right_iff.mpr
    (List.forall₂_same.mpr fun conduct _ => conduct.matches_withoutFailures)

/-- Only measurements of parameters with a canonical key are contributed. -/
theorem isKeyed_of_mem_parts {region : Region} {limits : Limits} {conducts : List (Conduct ω)}
    {stage : Stage ω} {contribution : Contribution}
    (hmem : contribution ∈ (parts region limits (conducts.map Conduct.source) stage).1.flatten) :
    contribution.IsKeyed := by
  obtain ⟨⟨-, hkeyed⟩, -⟩ :=
    parts_alikeBy (forall₂_matches_self conducts) region limits (Stage.Alike.refl stage)
  exact hkeyed contribution hmem

/-- A source with settled replies contributes what its replies come to, whatever the others do. -/
theorem parts_conduct (replies : List Replies) (region : Region) (limits : Limits)
    (stage : Stage ω) :
    (parts region limits ((replies.map fun source => source.conduct ω).map Conduct.source)
      stage).1 = replies.map fun source => source.contributions region limits := by
  induction replies generalizing stage with
  | nil => rfl
  | cons source rest ih =>
      rw [List.map_cons, List.map_cons, List.map_cons, parts_cons_apply, ih,
        Collection.ofSource_conduct]

/-! ### Reports -/

/-- Settings with too few workers are refused before a call is made. -/
theorem report_refused {settings : Settings} {conducts : List (Conduct ω)}
    (hconducts : conducts ≠ []) (hworkers : settings.workers conducts.length < 0)
    (region : Region) (stage : Stage ω) :
    ∃ entries, (report settings (conducts.map Conduct.source) region).run stage =
      (.error (.argument .tooFewWorkers), { stage with entries := entries }) := by
  have hempty : ¬(conducts.map Conduct.source).isEmpty = true := by
    intro hnil
    exact hconducts (List.map_eq_nil_iff.mp (List.isEmpty_iff.mp hnil))
  have hfew : settings.workers (conducts.map Conduct.source).length < 0 := by
    rw [List.length_map]
    exact hworkers
  unfold report
  rw [if_neg hempty]
  simp only [if_pos hfew]
  exact ⟨_, rfl⟩

theorem conclude_run (region : Region) (contributions : List Contribution) (stage : Stage ω) :
    ∃ entries, (conclude region contributions : ExceptT Failure (StateM (Stage ω)) Report).run
        stage =
      ((Summary.ofContributions contributions).map (Report.mk region),
        { stage with entries := entries }) := by
  unfold conclude
  cases Summary.ofContributions contributions with
  | error failure => exact ⟨stage.entries, rfl⟩
  | ok summaries => exact ⟨_, rfl⟩

/-- The report is the summary of the parts that the sources contribute, and comes of the calls
that these parts come of. -/
theorem report_eq_parts {settings : Settings} {conducts : List (Conduct ω)}
    (hworkers : 0 ≤ settings.workers conducts.length) (region : Region) (stage : Stage ω) :
    let run := (report settings (conducts.map Conduct.source) region).run stage
    let collected := parts region settings.limits (conducts.map Conduct.source) stage
    run.1 = (Summary.ofContributions collected.1.flatten).map (Report.mk region) ∧
      collected.2.Alike run.2 := by
  intro run collected
  by_cases hempty : (conducts.map Conduct.source).isEmpty
  · have hnil : conducts = [] := List.map_eq_nil_iff.mp (List.isEmpty_iff.mp hempty)
    subst hnil
    exact ⟨rfl, Stage.Alike.refl stage⟩
  · -- The entry at the start of the work is the only trace of it in what follows.
    let noted : Stage ω := { stage with entries := stage.entries ++ [⟨.info, .aggregation,
      startText region (conducts.map Conduct.source).length
        (settings.workers (conducts.map Conduct.source).length)⟩] }
    let gathered := parts region settings.limits (conducts.map Conduct.source) noted
    have hnoted : stage.Alike noted := ⟨rfl, rfl, rfl⟩
    have henough : ¬settings.workers (conducts.map Conduct.source).length < 0 := by
      rw [List.length_map]
      exact Int.not_lt.mpr hworkers
    have hrun : run = (conclude region gathered.1.flatten :
        ExceptT Failure (StateM (Stage ω)) Report).run gathered.2 := by
      calc
        run = (conclude region
            (collect region settings.limits (conducts.map Conduct.source) noted).1 :
              ExceptT Failure (StateM (Stage ω)) Report).run
                (collect region settings.limits (conducts.map Conduct.source) noted).2 := by
          change (report settings (conducts.map Conduct.source) region).run stage = _
          unfold report
          rw [if_neg hempty]
          simp only [if_neg henough]
          rfl
        _ = (conclude region gathered.1.flatten :
            ExceptT Failure (StateM (Stage ω)) Report).run gathered.2 := by
          rw [collect_eq_flatten]
    obtain ⟨entries, hconclude⟩ := conclude_run region gathered.1.flatten gathered.2
    obtain ⟨⟨hsame, -⟩, hafter⟩ :=
      parts_alikeBy (forall₂_matches_self conducts) region settings.limits hnoted
    rw [hrun, hconclude]
    constructor
    · rw [hsame]
    · exact ⟨hafter.world, hafter.isCancelled, hafter.calls⟩

/-- Sound measurements always make a report. -/
theorem exists_report {settings : Settings} {conducts : List (Conduct ω)}
    (hworkers : 0 ≤ settings.workers conducts.length) (region : Region) (stage : Stage ω)
    (hsound : ∀ contribution ∈
      (parts region settings.limits (conducts.map Conduct.source) stage).1.flatten,
        contribution.IsSound) :
    ∃ summaries, ((report settings (conducts.map Conduct.source) region).run stage).1 =
      .ok ⟨region, summaries⟩ := by
  obtain ⟨hreport, -⟩ := report_eq_parts hworkers region stage
  obtain ⟨summaries, hsummaries⟩ :=
    Summary.exists_ofContributions (fun _ hmem => isKeyed_of_mem_parts hmem) hsound
  refine ⟨summaries, ?_⟩
  rw [hreport, hsummaries]
  rfl

/-- Sources that collect the same have the same report, which comes of the same calls. -/
theorem report_of_collected (settings : Settings) {conducts others : List (Conduct ω)}
    {region : Region}
    (hcollected : List.Forall₂ (fun conduct other => AlikeBy Collection.Agree
      (Collection.ofSource region settings.limits (Conduct.source conduct))
      (Collection.ofSource region settings.limits (Conduct.source other))) conducts others)
    (stage : Stage ω) :
    let run := (report settings (conducts.map Conduct.source) region).run stage
    let otherRun := (report settings (others.map Conduct.source) region).run stage
    run.1 = otherRun.1 ∧ run.2.Alike otherRun.2 := by
  intro run otherRun
  have hlength : conducts.length = others.length := hcollected.length_eq
  by_cases hworkers : 0 ≤ settings.workers conducts.length
  · obtain ⟨⟨hsame, -⟩, halike⟩ :=
      parts_alikeBy_of_collected hcollected (Stage.Alike.refl stage)
    obtain ⟨hreport, hrun⟩ := report_eq_parts hworkers region stage
    obtain ⟨hotherReport, hotherRun⟩ := report_eq_parts (hlength ▸ hworkers) region stage
    constructor
    · calc
        run.1 = _ := hreport
        _ = _ := by rw [hsame]
        _ = otherRun.1 := hotherReport.symm
    · exact (hrun.symm.trans halike).trans hotherRun
  · have hnegative := Int.not_le.mp hworkers
    cases hcollected with
    | nil => exact ⟨rfl, Stage.Alike.refl _⟩
    | cons hfirst hrest =>
        obtain ⟨entries, hrun⟩ := report_refused (List.cons_ne_nil _ _) hnegative region stage
        obtain ⟨otherEntries, hotherRun⟩ :=
          report_refused (List.cons_ne_nil _ _) (hlength ▸ hnegative) region stage
        change run = _ at hrun
        change otherRun = _ at hotherRun
        rw [hrun, hotherRun]
        exact ⟨rfl, ⟨rfl, rfl, rfl⟩⟩

/-- Reports are the same, and come of the same calls, with failures taken for no data. -/
theorem report_of_matches (settings : Settings) {conducts others : List (Conduct ω)}
    (hmatches : List.Forall₂ Conduct.Matches conducts others) (region : Region)
    (stage : Stage ω) :
    let run := (report settings (conducts.map Conduct.source) region).run stage
    let otherRun := (report settings (others.map Conduct.source) region).run stage
    run.1 = otherRun.1 ∧ run.2.Alike otherRun.2 :=
  report_of_collected settings
    (hmatches.imp fun _ _ hmatch => Collection.ofSource_alikeBy hmatch region settings.limits) stage

/-- A report is the same, and comes of the same calls, where failing calls list nothing instead.
With settled replies, what fails contributes nothing and all the rest contributes what it lists.
The report is the summary of what the sources contribute, and with sound measurements there always
is one. -/
theorem report_withoutFailures (settings : Settings) (conducts : List (Conduct ω))
    (region : Region) (stage : Stage ω) :
    let sources := conducts.map Conduct.source
    let quietSources := (conducts.map Conduct.withoutFailures).map Conduct.source
    let run := (report settings sources region).run stage
    let quietRun := (report settings quietSources region).run stage
    run.1 = quietRun.1 ∧ run.2.calls = quietRun.2.calls ∧ run.2.world = quietRun.2.world ∧
      (parts region settings.limits sources stage).1 =
        (parts region settings.limits quietSources stage).1 ∧
      (∀ replies : List Replies, conducts = replies.map (fun source => source.conduct ω) →
        (parts region settings.limits sources stage).1 =
          replies.map fun source => source.contributions region settings.limits) ∧
      (0 ≤ settings.workers conducts.length →
        run.1 = (Summary.ofContributions
          (parts region settings.limits sources stage).1.flatten).map (Report.mk region)) ∧
      (0 ≤ settings.workers conducts.length →
        (∀ contribution ∈ (parts region settings.limits sources stage).1.flatten,
          contribution.IsSound) →
        ∃ summaries, run.1 = .ok ⟨region, summaries⟩) := by
  intro sources quietSources run quietRun
  have hmatches := forall₂_matches_withoutFailures conducts
  obtain ⟨hsame, hafter⟩ := report_of_matches settings hmatches region stage
  obtain ⟨⟨hparts, -⟩, -⟩ :=
    parts_alikeBy hmatches region settings.limits (Stage.Alike.refl stage)
  refine ⟨hsame, hafter.calls, hafter.world, hparts, ?_, ?_, ?_⟩
  · intro replies hreplies
    subst hreplies
    exact parts_conduct replies region settings.limits stage
  · intro hworkers
    exact (report_eq_parts hworkers region stage).1
  · intro hworkers hsound
    exact exists_report hworkers region stage hsound

/-! ### A square with stations -/

def square : Region := ⟨"square", .whole 50, .whole 55, .whole 20, .whole 25⟩

def stationIn (id : String) : Station := ⟨id, .null, .int 52, .int 21, "GIOS"⟩

def dust : Parameter := ⟨"p1", .text "PM10", .null, .null, .null, "GIOS"⟩

def dustAt (stationId : String) : Measurement := ⟨.int 12, ⟨0, none⟩, stationId, "PM10", "GIOS"⟩

def dustFrom (stationId : String) : Contribution :=
  ⟨stationIn stationId, dust, [dustAt stationId]⟩

theorem here_square (ids : List String) :
    Collection.here square (ids.map stationIn) = .ok (ids.map stationIn) := by
  induction ids with
  | nil => rfl
  | cons id rest ih =>
      have hhere : Collection.isHere square (stationIn id) = .ok true := by
        have hcheck : (stationIn id).position.check = .ok () :=
          Coordinate.check_int (by decide) (by decide)
        rw [Collection.isHere_of_check hcheck]
        rfl
      rw [List.map_cons, Collection.here, hhere, ok_bind, ih]
      rfl

/-- What a source with stations in the square contributes is what visiting them comes to. -/
theorem parts_square {conduct : Conduct Unit} {ids : List String}
    (hstations : conduct.stations () = ⟨.ok (ids.map stationIn), (), false⟩) (limits : Limits) :
    ∃ calls noted, (parts square limits [conduct.source] (.fresh ())).1 =
      [(Collection.inTurn (Collection.ofStation conduct.source limits) (ids.map stationIn)
        ⟨(), false, calls, noted⟩).1.contributions] := by
  obtain ⟨⟨world, isCancelled, calls, noted⟩, entries, hnoted, hrun⟩ :=
    Collection.ofSource_run conduct square limits (.fresh ())
  have hlisted : ((conduct.stations (Stage.fresh ()).world).outcome >>= Collection.here square) =
      .ok (ids.map stationIn) := by
    change (conduct.stations ()).outcome >>= _ = _
    rw [hstations, ok_bind, here_square]
  have hflag : (conduct.stations ()).isCancelled = isCancelled := hnoted.isCancelled
  rw [hstations] at hflag
  obtain rfl : false = isCancelled := hflag
  refine ⟨calls, noted, ?_⟩
  change [(Collection.ofSource square limits conduct.source (.fresh ())).1.contributions] = _
  rw [hrun, hlisted]
  rfl

theorem dustFrom_isSound (stationId : String) : (dustFrom stationId).IsSound := by
  intro measurement hmeasurement
  obtain rfl := List.mem_singleton.mp hmeasurement
  refine ⟨?_, rfl⟩
  change -Column.int64Bound ≤ 12 ∧ 12 < Column.int64Bound
  decide

/-- A source with two stations in the square and no reply about the first. -/
def patchy : Conduct Unit where
  name := "GIOS"
  stations _ := ⟨.ok (["s1", "s2"].map stationIn), (), false⟩
  parameters stationId _ :=
    ⟨if stationId = "s1" then .error (.general "no reply") else .ok [dust], (), false⟩
  measurements query _ := ⟨.ok [dustAt query.stationId], (), false⟩

theorem parts_patchy :
    (parts square .standard [patchy.source] (.fresh ())).1 = [[dustFrom "s2"]] := by
  have hstations : patchy.stations () = ⟨.ok (["s1", "s2"].map stationIn), (), false⟩ := rfl
  obtain ⟨calls, noted, hparts⟩ := parts_square hstations .standard
  exact hparts

theorem report_withoutFailures_patchy :
    (∀ contribution ∈ (parts square .standard [patchy.source] (.fresh ())).1.flatten,
      contribution.IsSound) ∧
    ∃ summaries, ((report ⟨.standard, none⟩ [patchy.source] square).run
      (.fresh ())).1 = .ok ⟨square, summaries⟩ := by
  have hsound : ∀ contribution ∈
      (parts square .standard [patchy.source] (.fresh ())).1.flatten,
        contribution.IsSound := by
    rw [parts_patchy]
    intro contribution hcontribution
    obtain rfl := List.mem_singleton.mp hcontribution
    exact dustFrom_isSound "s2"
  obtain ⟨-, -, -, -, -, -, hreport⟩ :=
    report_withoutFailures ⟨.standard, none⟩ [patchy] square (.fresh ())
  exact ⟨hsound, hreport (by decide) hsound⟩

end AirQuality.Aggregation
