import Mathlib.Algebra.GroupWithZero.Nat
import Mathlib.Data.List.Infix
import AirQuality.Proofs.Aggregation

/-!
# Reports of work that is cancelled

Whenever the work is cancelled, each source contributes a beginning of what it would have
contributed otherwise, which has what every call for measurements but the last one listed, and
the report is the summary of these beginnings.  No source is asked for parameters or measurements
once the work is cancelled.
-/

namespace AirQuality

open Outcome
open Stage (bind_apply)

variable {ω : Type}

namespace Replies

/-- What a source contributes in a run in which nothing is ever cancelled. -/
def collected (replies : Replies) (region : Region) (limits : Limits) : List Contribution :=
  (Collection.ofSource region limits (replies.conduct Unit).source (.fresh ())).1.contributions

theorem collected_eq (replies : Replies) (region : Region) (limits : Limits) :
    replies.collected region limits = replies.contributions region limits :=
  Collection.ofSource_conduct replies region limits _

end Replies

namespace Aggregation

theorem parts_isOrderly (region : Region) (limits : Limits) (conducts : List (Conduct ω))
    (stage : Stage ω) :
    stage.Orderly (parts region limits (conducts.map Conduct.source) stage).2 := by
  induction conducts generalizing stage with
  | nil => exact Stage.Orderly.refl stage
  | cons conduct rest ih =>
      rw [List.map_cons, parts_cons_apply]
      exact (Collection.ofSource_isOrderly conduct limits region stage).trans (ih _)

/-- The first shares of sources, so many of each. -/
def firstShares (region : Region) (limits : Limits) :
    List Replies → List Nat → List (List Contribution) :=
  List.zipWith fun source count => ((source.shares region limits).take count).flatten

/-- Each part is the first shares of its source, one for each time it was asked for measurements
but the last. -/
theorem parts_keeps {conducts : List (Conduct ω)} {replies : List Replies}
    (hinterrupts : List.Forall₂ Conduct.Interrupts conducts replies) (region : Region)
    (limits : Limits) (stage : Stage ω) :
    let run := parts region limits (conducts.map Conduct.source) stage
    ∃ counts : List Nat,
      List.Forall₂ (fun source count => count ≤ (source.shares region limits).length)
        replies counts ∧
      run.1 = firstShares region limits replies counts ∧
      run.2.asked ≤ stage.asked + counts.sum + replies.length := by
  induction hinterrupts generalizing stage with
  | nil => exact ⟨[], .nil, rfl, Nat.le_refl _⟩
  | @cons conduct source _ rest hfirst _ ih =>
      obtain ⟨count, hcount, hcontributions, hasked⟩ :=
        (Collection.ofSource_keeps hfirst region limits stage).isBeginning
      obtain ⟨counts, hcounts, hparts, hlater⟩ :=
        ih (Collection.ofSource region limits conduct.source stage).2
      refine ⟨count :: counts, .cons hcount hcounts, ?_, ?_⟩
      · rw [List.map_cons, parts_cons_apply, hparts, hcontributions]
        rfl
      · rw [List.map_cons, parts_cons_apply, List.sum_cons, List.length_cons]
        calc
          _ ≤ (Collection.ofSource region limits conduct.source stage).2.asked + counts.sum +
              rest.length := hlater
          _ ≤ stage.asked + (count + counts.sum) + (rest.length + 1) := by omega

/-- First shares are a beginning of what a source contributes in a run that is not cancelled. -/
theorem firstShares_beginnings (region : Region) (limits : Limits) {replies : List Replies}
    {counts : List Nat}
    (hcounts : List.Forall₂ (fun source count => count ≤ (source.shares region limits).length)
      replies counts) :
    List.Forall₂ (fun part whole => part <+: whole) (firstShares region limits replies counts)
      (replies.map fun source => source.collected region limits) := by
  induction hcounts with
  | nil => exact .nil
  | @cons source count _ _ _ _ ih =>
      have hbeginning : ((source.shares region limits).take count).flatten <+:
          source.collected region limits := by
        rw [Replies.collected_eq, Replies.contributions]
        exact (List.take_prefix count (source.shares region limits)).flatten
      exact .cons hbeginning ih

/-- Where the work may be cancelled at any call, each source contributes a beginning of what it
contributes in a run that is not cancelled, and there still is a report, which is the summary of
these beginnings; no late call asks for parameters or measurements.  What was listed by the calls
for measurements, but for the last call of each source, is kept. -/
theorem report_of_interrupts {settings : Settings} {conducts : List (Conduct ω)}
    {replies : List Replies} (hinterrupts : List.Forall₂ Conduct.Interrupts conducts replies)
    (hworkers : 0 ≤ settings.workers conducts.length) (region : Region) (stage : Stage ω) :
    let sources := conducts.map Conduct.source
    let run := (report settings sources region).run stage
    let collected := (parts region settings.limits sources stage).1
    List.Forall₂ (fun part whole => part <+: whole) collected
        (replies.map fun source => source.collected region settings.limits) ∧
      (∀ source ∈ replies, source.collected region settings.limits =
        source.contributions region settings.limits) ∧
      run.1 = (Summary.ofContributions collected.flatten).map (Report.mk region) ∧
      ((∀ contribution ∈ collected.flatten, contribution.IsSound) →
        ∃ summaries, run.1 = .ok ⟨region, summaries⟩) ∧
      (∃ made, run.2.calls = stage.calls ++ made ∧
        ∀ call ∈ made, call.isLate = true → call.call = .stations) ∧
      ∃ counts : List Nat,
        List.Forall₂ (fun source count => count ≤ (source.shares region settings.limits).length)
          replies counts ∧
        collected = firstShares region settings.limits replies counts ∧
        run.2.asked ≤ stage.asked + counts.sum + replies.length := by
  intro sources run collected
  obtain ⟨hreport, hafter⟩ := report_eq_parts hworkers region stage
  obtain ⟨counts, hcounts, hcollected, hasked⟩ :=
    parts_keeps hinterrupts region settings.limits stage
  have horderly := parts_isOrderly region settings.limits conducts stage
  refine ⟨?_, fun source _ => source.collected_eq region settings.limits, hreport,
    exists_report hworkers region stage, horderly.of_calls_eq hafter.calls.symm, counts, hcounts,
    hcollected, ?_⟩
  · change List.Forall₂ _ (parts region settings.limits sources stage).1 _
    rw [hcollected]
    exact firstShares_beginnings region settings.limits hcounts
  · exact hafter.asked_eq ▸ hasked

/-- A source with a reading of each of two stations in the square. -/
def tidy : Replies where
  name := "GIOS"
  stations := .ok (["s1", "s2"].map stationIn)
  parameters _ := .ok [dust]
  measurements query := .ok [dustAt query.stationId]
  uncancelled_stations := uncancelled_ok _
  uncancelled_parameters _ := uncancelled_ok _
  uncancelled_measurements _ := uncancelled_ok _

/-- The same source, where the work is cancelled while it lists measurements. -/
def hasty : Conduct Unit where
  name := tidy.name
  stations _ := ⟨tidy.stations, (), false⟩
  parameters stationId _ := ⟨tidy.parameters stationId, (), false⟩
  measurements query _ := ⟨tidy.measurements query, (), true⟩

theorem interrupts_hasty : hasty.Interrupts tidy where
  stations _ := .answered rfl
  parameters _ _ := .answered rfl
  measurements _ _ := .answered rfl

theorem parts_hasty :
    (parts square .standard [hasty.source] (.fresh ())).1 = [[dustFrom "s1"]] := by
  have hstations : hasty.stations () = ⟨.ok (["s1", "s2"].map stationIn), (), false⟩ := rfl
  obtain ⟨calls, noted, hparts⟩ := parts_square hstations .standard
  exact hparts

theorem collected_tidy :
    tidy.collected square .standard = [dustFrom "s1", dustFrom "s2"] := by
  have hhere : (tidy.stations >>= Collection.here square) = .ok (["s1", "s2"].map stationIn) :=
    here_square ["s1", "s2"]
  rw [Replies.collected_eq, Replies.contributions, Replies.shares, hhere]
  rfl

theorem report_of_interrupts_hasty :
    List.Forall₂ Conduct.Interrupts [hasty] [tidy] ∧
    List.Forall₂ (fun part whole => part <+: whole)
      [[dustFrom "s1"]] [[dustFrom "s1", dustFrom "s2"]] ∧
    ∃ summaries, ((report ⟨.standard, none⟩ [hasty.source] square).run (.fresh ())).1 =
      .ok ⟨square, summaries⟩ := by
  have hinterrupts : List.Forall₂ Conduct.Interrupts [hasty] [tidy] :=
    .cons interrupts_hasty .nil
  have hworkers : 0 ≤ Settings.workers ⟨.standard, none⟩ [hasty].length := by decide
  obtain ⟨hparts, -, -, hreport, -, -⟩ :=
    report_of_interrupts hinterrupts hworkers square (.fresh ())
  rw [List.map_singleton, List.map_singleton] at hparts
  rw [parts_hasty, collected_tidy] at hparts
  refine ⟨hinterrupts, hparts, hreport ?_⟩
  change ∀ contribution ∈ (parts square .standard [hasty.source] (.fresh ())).1.flatten, _
  rw [parts_hasty]
  intro contribution hcontribution
  obtain rfl := List.mem_singleton.mp hcontribution
  exact dustFrom_isSound "s1"

end Aggregation

end AirQuality
