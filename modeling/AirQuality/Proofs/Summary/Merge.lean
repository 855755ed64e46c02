import AirQuality.Proofs.Summary.Groups

/-!
# Merging summaries

The figures of a summary are what it says of its measurements alone, the mean left aside.  The
figures of two lists of contributions in a row are found from the figures of each of them, without
the contributions: the keys of the first come first, and under a key of both lists the counts add
up, the extremes and the sources are joined, and the later reading counts, that of the first list
where both are as late.
-/

namespace AirQuality

open Outcome

/-- What a summary says of its measurements alone. -/
structure Figures where
  key : String
  sources : Finset String
  count : Nat
  least : Float
  greatest : Float
  latestValue : Float
  latestMoment : Time.Moment

def Summary.figures (summary : Summary) : Figures where
  key := summary.key
  sources := summary.sources.toFinset
  count := summary.count
  least := summary.least
  greatest := summary.greatest
  latestValue := summary.latestValue
  latestMoment := summary.latestMoment

namespace Figures

/-- The figures of a group followed by another group under the same key. -/
def merge (first second : Figures) : Figures where
  key := first.key
  sources := first.sources ∪ second.sources
  count := first.count + second.count
  least := if Decimal.lt second.least first.least then second.least else first.least
  greatest :=
    if Decimal.lt first.greatest second.greatest then second.greatest else first.greatest
  latestValue :=
    if first.latestMoment.instant < second.latestMoment.instant then second.latestValue
    else first.latestValue
  latestMoment :=
    if first.latestMoment.instant < second.latestMoment.instant then second.latestMoment
    else first.latestMoment

/-- The figures of a list, each merged with those under its key in another list if there are any,
and then the figures of the other list under keys of its own. -/
def mergeAll (first second : List Figures) : List Figures :=
  (first.map fun figures =>
      match second.find? fun other => other.key = figures.key with
      | some other => figures.merge other
      | none => figures) ++
    second.filter fun other => other.key ∉ first.map (·.key)

end Figures

/-! ### Groups in a row -/

namespace Statistics

variable {values more : List Float} (hvalues : AreNumbers values) (hmore : AreNumbers more)
  (hsome : values ≠ []) (hsomeMore : more ≠ [])
include hvalues hmore hsome hsomeMore

theorem least_append : least (values ++ more) =
    if Decimal.lt (least more) (least values) then least more else least values := by
  have hall : AreNumbers (values ++ more) := List.forall_mem_append.mpr ⟨hvalues, hmore⟩
  have hboth := argmin_eq_some_least hall (List.append_ne_nil_of_left_ne_nil hsome more)
  rw [Extremes.argmin_append, argmin_eq_some_least hvalues hsome,
    argmin_eq_some_least hmore hsomeMore, Option.merge_some_some] at hboth
  rw [← Option.some.inj hboth, Extremes.lower]
  simp only [Decimal.lt_iff_place (isNaN_least hmore hsomeMore) (isNaN_least hvalues hsome)]

theorem greatest_append : greatest (values ++ more) =
    if Decimal.lt (greatest values) (greatest more) then greatest more else greatest values := by
  have hall : AreNumbers (values ++ more) := List.forall_mem_append.mpr ⟨hvalues, hmore⟩
  have hboth := argmax_eq_some_greatest hall (List.append_ne_nil_of_left_ne_nil hsome more)
  rw [Extremes.argmax_append, argmax_eq_some_greatest hvalues hsome,
    argmax_eq_some_greatest hmore hsomeMore, Option.merge_some_some] at hboth
  rw [← Option.some.inj hboth, Extremes.upper]
  simp only [Decimal.lt_iff_place (isNaN_greatest hvalues hsome)
    (isNaN_greatest hmore hsomeMore)]

end Statistics

namespace Figures

/-- The figures of measurements under a key of which one is the latest. -/
def ofLatest (key : String) (measurements : List Measurement) (latest : Measurement) : Figures where
  key := key
  sources := (measurements.map (·.source)).toFinset
  count := measurements.length
  least := Statistics.least (Measurement.numbers measurements)
  greatest := Statistics.greatest (Measurement.numbers measurements)
  latestValue := latest.number
  latestMoment := Time.Moment.atUtc latest.timestamp.instant

/-- The figures of the measurements under a key, if there are any. -/
def ofMeasurements? (key : String) (measurements : List Measurement) : Option Figures :=
  (Summary.latest? measurements).map (ofLatest key measurements)

theorem ofLatest_append {measurements more : List Measurement}
    (hmeasurements : Statistics.AreNumbers (Measurement.numbers measurements))
    (hmore : Statistics.AreNumbers (Measurement.numbers more)) (hsome : measurements ≠ [])
    (hsomeMore : more ≠ []) (key : String) (latest later : Measurement) :
    ofLatest key (measurements ++ more)
        (Extremes.upper (fun measurement => measurement.timestamp.instant) latest later) =
      (ofLatest key measurements latest).merge (ofLatest key more later) := by
  have hnumbers : Measurement.numbers (measurements ++ more) =
      Measurement.numbers measurements ++ Measurement.numbers more := List.map_append
  have hvalues : Measurement.numbers measurements ≠ [] := mt List.map_eq_nil_iff.mp hsome
  have hmoreValues : Measurement.numbers more ≠ [] := mt List.map_eq_nil_iff.mp hsomeMore
  have hinstant : ∀ measurement : Measurement,
      (Time.Moment.atUtc measurement.timestamp.instant).instant = measurement.timestamp.instant :=
    fun measurement => Int.sub_zero _
  unfold ofLatest merge
  rw [mk.injEq, hnumbers, List.map_append, List.toFinset_append, List.length_append, hinstant,
    hinstant]
  refine ⟨rfl, rfl, rfl, ?_, ?_, apply_ite Measurement.number _ _ _, ?_⟩
  · exact Statistics.least_append hmeasurements hmore hvalues hmoreValues
  · exact Statistics.greatest_append hmeasurements hmore hvalues hmoreValues
  · exact apply_ite (fun measurement : Measurement =>
      Time.Moment.atUtc measurement.timestamp.instant) _ _ _

theorem ofMeasurements?_append {measurements more : List Measurement}
    (hmeasurements : Statistics.AreNumbers (Measurement.numbers measurements))
    (hmore : Statistics.AreNumbers (Measurement.numbers more)) (key : String) :
    ofMeasurements? key (measurements ++ more) =
      Option.merge merge (ofMeasurements? key measurements) (ofMeasurements? key more) := by
  unfold ofMeasurements?
  cases hlatest : Summary.latest? measurements with
  | none =>
      rw [Summary.latest?_eq_none_iff.mp hlatest]
      exact Option.merge_none_left.symm
  | some latest =>
      cases hlater : Summary.latest? more with
      | none =>
          rw [Summary.latest?_eq_none_iff.mp hlater, List.append_nil, hlatest]
          rfl
      | some later =>
          have hsome : measurements ≠ [] := List.ne_nil_of_mem (Summary.mem_of_latest? hlatest)
          have hsomeMore : more ≠ [] := List.ne_nil_of_mem (Summary.mem_of_latest? hlater)
          rw [Summary.latest?_eq_argmax] at hlatest hlater
          rw [Summary.latest?_eq_argmax, Extremes.argmax_append, hlatest, hlater,
            Option.merge_some_some, Option.map_some, Option.map_some, Option.map_some,
            Option.merge_some_some,
            ofLatest_append hmeasurements hmore hsome hsomeMore]

end Figures

/-! ### Contributions in a row -/

namespace Summary

open Contribution (group keyed keysOf)

variable {contributions more : List Contribution}

theorem figures_ofGroup? {key : String}
    (hnumbers : Statistics.AreNumbers (Measurement.numbers (group key contributions))) :
    (ofGroup? contributions key).map figures =
      Figures.ofMeasurements? key (group key contributions) := by
  unfold ofGroup? Figures.ofMeasurements?
  rw [Option.map_map]
  congr 1
  funext latest
  have hsources : (sourcesOf (group key contributions)).toFinset =
      ((group key contributions).map (·.source)).toFinset := by
    ext source
    rw [List.mem_toFinset, List.mem_toFinset, mem_sourcesOf, List.mem_map]
  have hcount : (Statistics.numbers (Measurement.numbers (group key contributions))).length =
      (group key contributions).length := by
    rw [Statistics.numbers_eq_self hnumbers]
    exact List.length_map _
  rw [Function.comp_apply, figures, Figures.ofLatest, Figures.mk.injEq]
  exact ⟨rfl, hsources, hcount, rfl, rfl, rfl, rfl⟩

theorem areNumbers_group (hregular : ∀ contribution ∈ contributions, contribution.IsRegular)
    (key : String) : Statistics.AreNumbers (Measurement.numbers (group key contributions)) :=
  Measurement.areNumbers <| Contribution.isFinite_of_mem_group
    (fun contribution hgiven => (hregular contribution hgiven).finite) key

/-- Under each key the figures of contributions in a row are merged. -/
theorem figures_append (hregular : ∀ contribution ∈ contributions, contribution.IsRegular)
    (hmore : ∀ contribution ∈ more, contribution.IsRegular) (key : String) :
    (ofGroup? (contributions ++ more) key).map figures =
      Option.merge Figures.merge ((ofGroup? contributions key).map figures)
        ((ofGroup? more key).map figures) := by
  have hall : ∀ contribution ∈ contributions ++ more, contribution.IsRegular :=
    List.forall_mem_append.mpr ⟨hregular, hmore⟩
  rw [figures_ofGroup? (areNumbers_group hall key), Contribution.group_append,
    Figures.ofMeasurements?_append (areNumbers_group hregular key) (areNumbers_group hmore key),
    figures_ofGroup? (areNumbers_group hregular key), figures_ofGroup? (areNumbers_group hmore key)]

theorem key_of_figures {key : String} {found : Figures}
    (hfound : (ofGroup? contributions key).map figures = some found) : found.key = key := by
  obtain ⟨summary, hsummary, rfl⟩ := Option.map_eq_some_iff.mp hfound
  exact key_of_ofGroup? hsummary

theorem find?_map_figures (contributions : List Contribution) (key : String) :
    (((summariesOf contributions).map figures).find? fun found => found.key = key) =
      (ofGroup? contributions key).map figures := by
  rw [List.find?_map, ← find?_summariesOf]
  rfl

theorem map_key_figures (contributions : List Contribution) :
    ((summariesOf contributions).map figures).map (·.key) = keysOf contributions := by
  rw [List.map_map, ← map_key_summariesOf]
  rfl

theorem map_figures_summariesOf (contributions : List Contribution) :
    (summariesOf contributions).map figures =
      (keysOf contributions).filterMap fun key => (ofGroup? contributions key).map figures :=
  List.map_filterMap

/-- The figures of contributions in a row. -/
theorem figures_summariesOf_append
    (hregular : ∀ contribution ∈ contributions, contribution.IsRegular)
    (hmore : ∀ contribution ∈ more, contribution.IsRegular) :
    (summariesOf (contributions ++ more)).map figures =
      Figures.mergeAll ((summariesOf contributions).map figures)
        ((summariesOf more).map figures) := by
  have hnone : ∀ key, key ∉ keysOf contributions →
      (ofGroup? contributions key).map figures = none :=
    fun key hkey => Option.map_eq_none_iff.mpr (ofGroup?_eq_none_iff.mpr hkey)
  rw [Figures.mergeAll, map_key_figures, map_figures_summariesOf (contributions ++ more),
    Contribution.keysOf_append, List.filterMap_append, List.filterMap_filter]
  congr 1
  · -- The keys of the first list.
    rw [map_figures_summariesOf contributions, List.map_filterMap]
    apply List.filterMap_congr
    intro key hkey
    rw [figures_append hregular hmore]
    cases hfirst : (ofGroup? contributions key).map figures with
    | none =>
        have hsummary := Option.map_eq_none_iff.mp hfirst
        exact absurd hkey (ofGroup?_eq_none_iff.mp hsummary)
    | some first =>
        rw [Option.map_some, key_of_figures hfirst, find?_map_figures]
        cases (ofGroup? more key).map figures with
        | none => rfl
        | some second => rfl
  · -- The keys of the second list alone.
    rw [map_figures_summariesOf more, List.filter_filterMap]
    apply List.filterMap_congr
    intro key _
    cases hsecond : (ofGroup? more key).map figures with
    | none =>
        rw [figures_append hregular hmore, hsecond, Option.merge_none_right]
        split
        case isTrue hkey => exact hnone key (of_decide_eq_true hkey)
        case isFalse => rfl
    | some second =>
        rw [Option.filter_some, key_of_figures hsecond]
        split
        case isTrue hkey =>
          rw [figures_append hregular hmore, hnone key (of_decide_eq_true hkey), hsecond]
          rfl
        case isFalse => rfl

/-- Regular contributions have the summaries of their groups, unless one has no canonical key. -/
theorem ofContributions_eq_map (hregular : ∀ contribution ∈ contributions, contribution.IsRegular) :
    ofContributions contributions =
      (keyed contributions).map fun _ => summariesOf contributions := by
  cases hentries : keyed contributions with
  | ok entries => exact ofContributions_eq_ok (Contribution.isKeyed_of_keyed hentries) hregular
  | error failure =>
      obtain ⟨contribution, hgiven, -⟩ := exists_mem_of_mapM_eq_error hentries
      obtain ⟨measurement, hmem⟩ :=
        List.exists_mem_of_ne_nil _ (hregular contribution hgiven).measured
      have hsome : ¬(Contribution.measurementsOf contributions).isEmpty = true := by
        rw [List.isEmpty_iff]
        exact List.ne_nil_of_mem
          (Contribution.mem_measurementsOf.mpr ⟨contribution, hgiven, hmem⟩)
      rw [ofContributions, if_neg hsome, hentries]
      rfl

/-- The figures of two lists of regular contributions in a row are the merged figures of the two
lists.  Both have figures if all contributions have canonical keys; where one cannot be
summarised, neither can both together. -/
theorem ofContributions_append (hregular : ∀ contribution ∈ contributions, contribution.IsRegular)
    (hmore : ∀ contribution ∈ more, contribution.IsRegular) :
    (ofContributions (contributions ++ more)).map (List.map figures) = (do
        let first ← (ofContributions contributions).map (List.map figures)
        let second ← (ofContributions more).map (List.map figures)
        pure (Figures.mergeAll first second)) ∧
      ((∀ contribution ∈ contributions ++ more, contribution.IsKeyed) →
        ∃ first second both, ofContributions contributions = .ok first ∧
          ofContributions more = .ok second ∧ ofContributions (contributions ++ more) = .ok both ∧
          both.map figures = Figures.mergeAll (first.map figures) (second.map figures)) := by
  have hall : ∀ contribution ∈ contributions ++ more, contribution.IsRegular :=
    List.forall_mem_append.mpr ⟨hregular, hmore⟩
  have hmerged := figures_summariesOf_append hregular hmore
  constructor
  · have hkeyed : keyed (contributions ++ more) = (do
        let first ← keyed contributions
        let second ← keyed more
        pure (first ++ second)) := List.mapM_append
    rw [ofContributions_eq_map hall, ofContributions_eq_map hregular, ofContributions_eq_map hmore,
      hkeyed]
    cases keyed contributions with
    | error failure => rfl
    | ok first =>
        cases keyed more with
        | error failure => rfl
        | ok second => exact congrArg Except.ok hmerged
  · intro hkeyed
    obtain ⟨hfirst, hsecond⟩ := List.forall_mem_append.mp hkeyed
    exact ⟨_, _, _, ofContributions_eq_ok hfirst hregular, ofContributions_eq_ok hsecond hmore,
      ofContributions_eq_ok hkeyed hall, hmerged⟩

theorem ofContributions_append_interleaved :
    (∀ contribution ∈ interleaved, contribution.IsRegular) ∧
      ∃ first second both, ofContributions (interleaved.take 2) = .ok first ∧
        ofContributions (interleaved.drop 2) = .ok second ∧
        ofContributions interleaved = .ok both ∧
        both.map figures = Figures.mergeAll (first.map figures) (second.map figures) ∧
        both.map (fun summary => (summary.key, summary.count)) = [("SO2", 2), ("PM10", 1)] := by
  have hkeyed : ∀ contribution ∈ interleaved, contribution.IsKeyed := by
    simp only [interleaved, List.forall_mem_cons]
    exact ⟨⟨_, rfl⟩, ⟨_, rfl⟩, ⟨_, rfl⟩, List.forall_mem_nil _⟩
  obtain ⟨-, hsummaries⟩ := ofContributions_append
    (fun contribution (hmem : contribution ∈ interleaved.take 2) =>
      interleaved_isRegular contribution (List.mem_of_mem_take hmem))
    (fun contribution (hmem : contribution ∈ interleaved.drop 2) =>
      interleaved_isRegular contribution (List.mem_of_mem_drop hmem))
  obtain ⟨first, second, both, hfirst, hsecond, hboth, hmerged⟩ := hsummaries hkeyed
  have hsame : both = summariesOf interleaved :=
    Except.ok.inj (hboth.symm.trans (ofContributions_eq_ok hkeyed interleaved_isRegular))
  refine ⟨interleaved_isRegular, first, second, both, hfirst, hsecond, hboth, hmerged, ?_⟩
  rw [hsame]
  decide

end Summary

end AirQuality
