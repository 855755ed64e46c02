import AirQuality.Proofs.Summary
import AirQuality.Proofs.Summary.Statistics
import AirQuality.Report

/-!
# Summaries by key

Where all values are numbers, a summary says of the measurements under its key what can be said of
them alone, and the summaries of contributions are those of the keys in the order in which the
keys first have a measurement.
-/

namespace AirQuality

open Outcome

namespace Contribution

/-! ### First occurrences -/

theorem filter_distinct (texts : List String) (keep : String → Bool) :
    (distinct texts).filter keep = distinct (texts.filter keep) := by
  -- A text that is not kept is in nothing that is kept, so that it need not be left out there.
  induction texts with
  | nil => rfl
  | cons text rest ih =>
      rw [distinct, List.filter_cons, List.filter_cons, List.filter_comm, ih]
      by_cases hkeep : keep text = true
      · rw [if_pos hkeep, if_pos hkeep, distinct]
      · rw [if_neg hkeep, if_neg hkeep, List.filter_eq_self]
        intro other hother
        have hkept : other ∈ (distinct rest).filter keep := ih ▸ hother
        have hdiffers : other ≠ text := by
          rintro rfl
          exact hkeep (List.mem_filter.mp hkept).2
        exact decide_eq_true hdiffers

theorem distinct_eq_eraseDups (texts : List String) : distinct texts = texts.eraseDups := by
  cases texts with
  | nil => rfl
  | cons text rest =>
      have hsame : (rest.filter fun other => !other == text) = rest.filter (· ≠ text) := by
        simp only [ne_eq, decide_not]
        rfl
      rw [distinct, filter_distinct, List.eraseDups_cons, hsame, distinct_eq_eraseDups]
termination_by texts.length
decreasing_by exact Nat.lt_succ_of_le (List.length_filter_le _ _)

theorem mem_distinct {text : String} {texts : List String} :
    text ∈ distinct texts ↔ text ∈ texts := by
  rw [distinct_eq_eraseDups, List.mem_eraseDups]

theorem nodup_distinct (texts : List String) : (distinct texts).Nodup := by
  induction texts with
  | nil => exact List.nodup_nil
  | cons text rest ih =>
      rw [distinct, List.nodup_cons]
      constructor
      · simp
      · exact ih.filter _

theorem distinct_append (texts more : List String) :
    distinct (texts ++ more) = distinct texts ++ (distinct more).filter (· ∉ texts) := by
  rw [filter_distinct, distinct_eq_eraseDups, List.eraseDups_append, distinct_eq_eraseDups,
    distinct_eq_eraseDups]
  congr 2
  simp [List.removeAll]

/-! ### Groups -/

/-- The canonical key of the parameter of a contribution, where it has one. -/
def key (contribution : Contribution) : String :=
  match contribution.parameter.canonicalKey with
  | .ok key => key
  | .error _ => CanonicalKey.unknown

theorem canonicalKey_of_isKeyed {contribution : Contribution} (hkeyed : contribution.IsKeyed) :
    contribution.parameter.canonicalKey = .ok contribution.key := by
  obtain ⟨key, hkey⟩ := hkeyed
  simp only [Contribution.key, hkey]

/-- The contributions to a key. -/
def members (key : String) (contributions : List Contribution) : List Contribution :=
  contributions.filter fun contribution => contribution.key = key

/-- The measurements under a key. -/
def group (key : String) (contributions : List Contribution) : List Measurement :=
  measurementsOf (members key contributions)

/-- The keys that have measurements, in the order of their first measurement. -/
def keysOf (contributions : List Contribution) : List String :=
  distinct ((contributions.filter fun contribution => !contribution.measurements.isEmpty).map key)

theorem keyed_eq {contributions : List Contribution}
    (hkeyed : ∀ contribution ∈ contributions, contribution.IsKeyed) :
    keyed contributions = .ok (contributions.map fun contribution =>
      (contribution.key, contribution)) := by
  apply mapM_eq_ok_map
  intro contribution hmem
  rw [canonicalKey_of_isKeyed (hkeyed contribution hmem)]
  rfl

theorem isKeyed_of_keyed {contributions : List Contribution}
    {entries : List (String × Contribution)} (hentries : keyed contributions = .ok entries) :
    ∀ contribution ∈ contributions, contribution.IsKeyed := by
  intro contribution hgiven
  obtain ⟨entry, hentry⟩ := exists_ok_of_mem hentries hgiven
  obtain ⟨key, hkey, -⟩ := bind_eq_ok hentry
  exact ⟨key, hkey⟩

theorem keys_keyed (contributions : List Contribution) :
    keys (contributions.map fun contribution => (contribution.key, contribution)) =
      keysOf contributions := by
  rw [keys, List.filter_map, List.map_map]
  rfl

theorem under_keyed (key : String) (contributions : List Contribution) :
    under key (contributions.map fun contribution => (contribution.key, contribution)) =
      members key contributions := by
  rw [under, List.filter_map, List.map_map]
  exact List.map_id _

theorem mem_group {key : String} {contributions : List Contribution} {measurement : Measurement} :
    measurement ∈ group key contributions ↔
      ∃ contribution ∈ contributions, contribution.key = key ∧
        measurement ∈ contribution.measurements := by
  simp [group, members, mem_measurementsOf, and_assoc]

theorem mem_keysOf {key : String} {contributions : List Contribution} :
    key ∈ keysOf contributions ↔ group key contributions ≠ [] := by
  rw [keysOf, mem_distinct]
  constructor
  · intro hkey
    obtain ⟨contribution, hmem, rfl⟩ := List.mem_map.mp hkey
    obtain ⟨hgiven, hsome⟩ := List.mem_filter.mp hmem
    have hmeasured : contribution.measurements ≠ [] := by simpa using hsome
    obtain ⟨measurement, hmeasurement⟩ := List.exists_mem_of_ne_nil _ hmeasured
    exact List.ne_nil_of_mem (mem_group.mpr ⟨contribution, hgiven, rfl, hmeasurement⟩)
  · intro hsome
    obtain ⟨measurement, hmeasurement⟩ := List.exists_mem_of_ne_nil _ hsome
    obtain ⟨contribution, hgiven, rfl, hmem⟩ := mem_group.mp hmeasurement
    apply List.mem_map_of_mem
    apply List.mem_filter.mpr ⟨hgiven, ?_⟩
    simpa using List.ne_nil_of_mem hmem

theorem nodup_keysOf (contributions : List Contribution) : (keysOf contributions).Nodup :=
  nodup_distinct _

theorem group_append (key : String) (contributions more : List Contribution) :
    group key (contributions ++ more) = group key contributions ++ group key more := by
  simp only [group, members, measurementsOf, List.filter_append, List.flatMap_append]

theorem keysOf_append (contributions more : List Contribution) :
    keysOf (contributions ++ more) =
      keysOf contributions ++ (keysOf more).filter (· ∉ keysOf contributions) := by
  simp only [keysOf, List.filter_append, List.map_append, distinct_append, mem_distinct]

theorem group_perm {contributions others : List Contribution}
    (hperm : contributions.Perm others) (key : String) :
    (group key contributions).Perm (group key others) :=
  (hperm.filter _).flatMap_right _

end Contribution

namespace Summary

open Contribution (group keysOf members)

/-- The summary of numbers under a key. -/
def ofNumbers (key : String) (members : List Contribution) (latest : Measurement) : Summary :=
  let measurements := Contribution.measurementsOf members
  let numbers := measurements.map fun measurement => Column.realOf measurement.value
  let parameters := members.map (·.parameter)
  { key := key
    displayName := firstGiven (parameters.map (·.displayName)) key
    unit := firstGiven (parameters.map (·.unit)) ""
    description := firstGiven (parameters.map (·.description)) ""
    sources := sourcesOf measurements
    average := Statistics.mean numbers
    least := Statistics.least numbers
    greatest := Statistics.greatest numbers
    count := (Statistics.numbers numbers).length
    latestValue := Column.realOf latest.value
    latestMoment := Time.Moment.atUtc latest.timestamp.instant }

@[simp]
theorem instant_ofNumbers (key : String) (members : List Contribution) (latest : Measurement) :
    (ofNumbers key members latest).latestMoment.instant = latest.timestamp.instant :=
  Int.sub_zero _

theorem ofMembers_eq {kind : Column.Kind} (hkind : kind = .whole ∨ kind = .number) (key : String)
    (members : List Contribution) (latest : Measurement) :
    ofMembers kind key members latest =
      (onUtc latest.timestamp).map fun _ => ofNumbers key members latest := by
  have hmean : ∀ values, meanOf kind values = .ok (Statistics.mean (values.map Column.realOf)) := by
    rcases hkind with rfl | rfl <;> exact fun _ => rfl
  have hlatest : latestNumber kind latest.value = .ok (Column.realOf latest.value) := by
    rcases hkind with rfl | rfl <;> rfl
  unfold ofMembers onUtc ofNumbers
  simp only [hmean, hlatest, ok_bind, List.map_map]
  by_cases hinside : Time.inCalendar latest.timestamp.instant = true
  · rw [if_pos hinside]
    rfl
  · rw [if_neg hinside]
    rfl

/-- The summary of the numbers that contributions have under a key, if they have any. -/
def ofGroup? (contributions : List Contribution) (key : String) : Option Summary :=
  (latest? (group key contributions)).map (ofNumbers key (members key contributions))

variable {contributions : List Contribution} {key : String} {summary : Summary}

theorem latest?_eq_none_iff {measurements : List Measurement} :
    latest? measurements = none ↔ measurements = [] := by
  rw [latest?_eq_argmax, List.argmax_eq_none]

theorem key_of_ofGroup? (hsummary : ofGroup? contributions key = some summary) :
    summary.key = key := by
  obtain ⟨latest, -, rfl⟩ := Option.map_eq_some_iff.mp hsummary
  rfl

theorem ofGroup?_eq_none_iff : ofGroup? contributions key = none ↔ key ∉ keysOf contributions := by
  rw [ofGroup?, Option.map_eq_none_iff, latest?_eq_none_iff, Contribution.mem_keysOf, not_not]

/-- The summaries of contributions of numbers, in the order in which their keys first have a
measurement. -/
def summariesOf (contributions : List Contribution) : List Summary :=
  (keysOf contributions).filterMap (ofGroup? contributions)

theorem mem_summariesOf :
    summary ∈ summariesOf contributions ↔ ofGroup? contributions summary.key = some summary := by
  rw [summariesOf, List.mem_filterMap]
  constructor
  · rintro ⟨key, -, hsummary⟩
    rwa [key_of_ofGroup? hsummary]
  · intro hsummary
    refine ⟨summary.key, ?_, hsummary⟩
    by_contra hkey
    rw [ofGroup?_eq_none_iff.mpr hkey] at hsummary
    cases hsummary

theorem map_key_summariesOf (contributions : List Contribution) :
    (summariesOf contributions).map (·.key) = keysOf contributions := by
  have hkeys : ∀ key ∈ keysOf contributions,
      (ofGroup? contributions key).map (·.key) = some key := by
    intro key hkey
    cases hsummary : ofGroup? contributions key with
    | none => exact absurd hkey (ofGroup?_eq_none_iff.mp hsummary)
    | some summary => exact congrArg some (key_of_ofGroup? hsummary)
  rw [summariesOf, List.map_filterMap, List.filterMap_congr hkeys, List.filterMap_some]

/-- The summary of a key is the one that is found under it. -/
theorem find?_summariesOf (contributions : List Contribution) (key : String) :
    ((summariesOf contributions).find? fun summary => summary.key = key) =
      ofGroup? contributions key := by
  -- What is found under a key is its summary, whatever else stands before it.
  have hfind : ∀ summary,
      ((summariesOf contributions).find? fun other => other.key = key) = some summary →
        ofGroup? contributions key = some summary := by
    intro summary hfound
    have hkey := List.find?_some hfound
    have hsame : summary.key = key := of_decide_eq_true hkey
    rw [← hsame]
    exact mem_summariesOf.mp (List.mem_of_find?_eq_some hfound)
  cases hfound : (summariesOf contributions).find? fun summary => summary.key = key with
  | some summary => exact (hfind summary hfound).symm
  | none =>
      symm
      rw [Option.eq_none_iff_forall_ne_some]
      intro summary hsummary
      have hkey := key_of_ofGroup? hsummary
      have hmem : summary ∈ summariesOf contributions := by
        rwa [mem_summariesOf, hkey]
      exact List.find?_eq_none.mp hfound summary hmem (decide_eq_true hkey)

theorem get?_summariesOf (region : Region) (contributions : List Contribution) (key : String) :
    (Report.mk region (summariesOf contributions)).get? key = ofGroup? contributions key :=
  find?_summariesOf contributions key

/-- A summary is refused exactly if its latest moment is outside the calendar. -/
theorem ofKey_eq_ok_iff {kind : Column.Kind} (hkind : kind = .whole ∨ kind = .number)
    {outcome : Option Summary} :
    ofKey kind (contributions.map fun contribution => (contribution.key, contribution)) key =
        .ok outcome ↔
      (∀ summary, ofGroup? contributions key = some summary →
        Time.inCalendar summary.latestMoment.instant = true) ∧
        outcome = ofGroup? contributions key := by
  simp only [ofKey, ofGroup?, group, Contribution.under_keyed]
  cases latest? (Contribution.measurementsOf (members key contributions)) with
  | none =>
      simp only [Option.map_none, reduceCtorEq, false_imp_iff, implies_true, true_and,
        Except.ok.injEq]
      exact eq_comm
  | some latest =>
      simp only [ofMembers_eq hkind, onUtc, Option.map_some, Option.some.injEq, forall_eq',
        instant_ofNumbers]
      by_cases hinside : Time.inCalendar latest.timestamp.instant = true
      · rw [if_pos hinside]
        simp only [hinside, true_and]
        exact ⟨fun hsame => (Except.ok.inj hsame).symm, fun hsame => by rw [hsame]; rfl⟩
      · rw [if_neg hinside]
        simp [Except.map, hinside]

theorem keysOf_eq_nil (hempty : Contribution.measurementsOf contributions = []) :
    keysOf contributions = [] := by
  rw [List.eq_nil_iff_forall_not_mem]
  intro key hkey
  obtain ⟨measurement, hmem⟩ := List.exists_mem_of_ne_nil _ (Contribution.mem_keysOf.mp hkey)
  obtain ⟨contribution, hgiven, -, hmeasurement⟩ := Contribution.mem_group.mp hmem
  have hall := Contribution.mem_measurementsOf.mpr ⟨contribution, hgiven, hmeasurement⟩
  rw [hempty] at hall
  cases hall

/-- There are summaries exactly if there are measurements. -/
theorem summariesOf_eq_nil_iff :
    summariesOf contributions = [] ↔ Contribution.measurementsOf contributions = [] := by
  rw [← List.map_eq_nil_iff, map_key_summariesOf]
  constructor
  · intro hnone
    rw [List.eq_nil_iff_forall_not_mem]
    intro measurement hmem
    obtain ⟨contribution, hgiven, hmeasurement⟩ := Contribution.mem_measurementsOf.mp hmem
    have hgroup := Contribution.mem_group.mpr ⟨contribution, hgiven, rfl, hmeasurement⟩
    have hkey := Contribution.mem_keysOf.mpr (List.ne_nil_of_mem hgroup)
    rw [hnone] at hkey
    cases hkey
  · exact keysOf_eq_nil

/-- The summaries of all keys are refused exactly if a latest moment is outside the calendar. -/
theorem mapM_ofKey_eq_ok_iff {kind : Column.Kind} (hkind : kind = .whole ∨ kind = .number)
    {outcomes : List (Option Summary)} :
    (keysOf contributions).mapM (ofKey kind
        (contributions.map fun contribution => (contribution.key, contribution))) = .ok outcomes ↔
      (∀ summary ∈ summariesOf contributions,
        Time.inCalendar summary.latestMoment.instant = true) ∧
        outcomes = (keysOf contributions).map (ofGroup? contributions) := by
  rw [mapM_eq_ok_iff fun key _ outcome => ofKey_eq_ok_iff hkind]
  apply and_congr_left'
  simp only [summariesOf, List.mem_filterMap]
  constructor
  · rintro hall summary ⟨key, hkey, hsummary⟩
    exact hall key hkey summary hsummary
  · intro hall key hkey summary hsummary
    exact hall summary ⟨key, hkey, hsummary⟩

/-- Where all values are numbers, contributions have the summaries of their groups if all latest
moments are in the calendar, and cannot be summarised if one is not. -/
theorem ofContributions_eq_ok_iff
    (hkeyed : ∀ contribution ∈ contributions, contribution.IsKeyed)
    (hnumbers : ∀ contribution ∈ contributions, ∀ measurement ∈ contribution.measurements,
      Column.IsNumber measurement.value) {summaries : List Summary} :
    ofContributions contributions = .ok summaries ↔
      (∀ summary ∈ summariesOf contributions,
        Time.inCalendar summary.latestMoment.instant = true) ∧
        summaries = summariesOf contributions := by
  by_cases hempty : Contribution.measurementsOf contributions = []
  · have hnone : summariesOf contributions = [] := by
      rw [summariesOf, keysOf_eq_nil hempty]
      rfl
    have hnothing : ofContributions contributions = .ok [] := by
      rw [ofContributions, hempty]
      rfl
    rw [hnothing, hnone]
    exact ⟨fun hsame => ⟨nofun, (Except.ok.inj hsame).symm⟩, fun hsame => by rw [hsame.2]⟩
  · have hkind := kindOfValues_of_isNumber hempty hnumbers
    have hpresent : ((keysOf contributions).map (ofGroup? contributions)).filterMap id =
        summariesOf contributions := List.filterMap_map
    have hsome : ¬(Contribution.measurementsOf contributions).isEmpty = true :=
      mt List.isEmpty_iff.mp hempty
    rw [ofContributions, if_neg hsome, Contribution.keyed_eq hkeyed, ok_bind,
      Contribution.keys_keyed]
    constructor
    · intro hsummaries
      obtain ⟨outcomes, houtcomes, hsame⟩ := bind_eq_ok hsummaries
      obtain ⟨hinside, rfl⟩ := (mapM_ofKey_eq_ok_iff hkind).mp houtcomes
      exact ⟨hinside, (Except.ok.inj hsame).symm.trans hpresent⟩
    · rintro ⟨hinside, rfl⟩
      rw [(mapM_ofKey_eq_ok_iff hkind).mpr ⟨hinside, rfl⟩, ok_bind, hpresent]
      rfl

end Summary

end AirQuality
