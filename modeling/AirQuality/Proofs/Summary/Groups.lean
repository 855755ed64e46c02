import AirQuality.Proofs.Summary.Keys

/-!
# Summaries and their groups

The measurements that contributions have under one key make up a group, in the order of the
contributions.  There is one summary for each key, and it describes the group of that key: how many
measurements it has, between which values they lie, which of them is the latest, where they come
from, and which texts describe their parameter first.
-/

namespace AirQuality

open Outcome

/-! ### Texts -/

namespace Json

def IsTextOrNull : Json → Prop
  | .text _ => True
  | .null => True
  | _ => False

/-- Neither a value nor a text that says something. -/
def SaysNothing (value : Json) : Prop := value = .null ∨ value = .text ""

/-- The first text among some values that says something, or a fallback if none does. -/
def IsFirstText (values : List Json) (fallback : String) (result : Json) : Prop :=
  (∃ earlier text later, values = earlier ++ .text text :: later ∧ text ≠ "" ∧
      (∀ value ∈ earlier, value.SaysNothing) ∧ result = .text text) ∨
    (∀ value ∈ values, value.SaysNothing) ∧ result = .text fallback

end Json

/-- A parameter whose name, unit and descriptions are texts or missing. -/
structure Parameter.IsPlain (parameter : Parameter) : Prop where
  rawName : parameter.rawName.IsTextOrNull
  displayName : parameter.displayName.IsTextOrNull
  unit : parameter.unit.IsTextOrNull
  description : parameter.description.IsTextOrNull

theorem Parameter.IsPlain.exists_canonicalKey {parameter : Parameter}
    (hplain : parameter.IsPlain) : ∃ key, parameter.canonicalKey = .ok key := by
  have hname := hplain.rawName
  unfold canonicalKey
  cases hraw : parameter.rawName with
  | null => exact ⟨_, rfl⟩
  | text name => exact ⟨_, rfl⟩
  | _ =>
      rw [hraw] at hname
      exact hname.elim

namespace Summary

theorem saysNothing_of_isGiven {value : Json} (hvalue : value.IsTextOrNull)
    (hgiven : isGiven value = false) : value.SaysNothing := by
  cases value with
  | null => exact .inl rfl
  | text text => exact .inr (congrArg Json.text (not_not.mp (of_decide_eq_false hgiven)))
  | _ => exact hvalue.elim

theorem isFirstText_firstGiven {values : List Json}
    (hvalues : ∀ value ∈ values, value.IsTextOrNull) (fallback : String) :
    Json.IsFirstText values fallback (firstGiven values fallback) := by
  unfold firstGiven
  cases hfirst : values.find? isGiven with
  | none =>
      right
      constructor
      · intro value hvalue
        have hsilent := List.find?_eq_none.mp hfirst value hvalue
        exact saysNothing_of_isGiven (hvalues value hvalue) (Bool.eq_false_iff.mpr hsilent)
      · rfl
  | some value =>
      obtain ⟨hgiven, earlier, later, rfl, hearlier⟩ := List.find?_eq_some_iff_append.mp hfirst
      have hvalue := hvalues value (by simp)
      cases value with
      | text text =>
          left
          have hsome : text ≠ "" := of_decide_eq_true hgiven
          refine ⟨earlier, text, later, rfl, hsome, ?_, ?_⟩
          · intro other hother
            have hsilent := hearlier other hother
            exact saysNothing_of_isGiven (hvalues other (List.mem_append_left _ hother))
              (by simpa using hsilent)
          · simp [Json.orElse, Json.isPresent, hsome]
      | null => cases hgiven
      | _ => exact hvalue.elim

end Summary

/-! ### Groups -/

/-- The value of a measurement as a binary64 number. -/
def Measurement.number (measurement : Measurement) : Float := Column.realOf measurement.value

/-- A measurement whose value is a finite number: of binary64, or a whole one that 64 bits hold
with its sign. -/
structure Measurement.IsFinite (measurement : Measurement) : Prop where
  value : Column.IsNumber measurement.value
  finite : Decimal.isFinite measurement.number = true

/-- A contribution with measurements, all of them finite and at instants in the calendar. -/
structure Contribution.IsRegular (contribution : Contribution) : Prop where
  measured : contribution.measurements ≠ []
  finite : ∀ measurement ∈ contribution.measurements, measurement.IsFinite
  inside : ∀ measurement ∈ contribution.measurements,
    Time.inCalendar measurement.timestamp.instant = true

/-- The values of measurements as binary64 numbers. -/
def Measurement.numbers (measurements : List Measurement) : List Float :=
  measurements.map Measurement.number

theorem Measurement.areNumbers {measurements : List Measurement}
    (hfinite : ∀ measurement ∈ measurements, measurement.IsFinite) :
    Statistics.AreNumbers (numbers measurements) := by
  intro value hvalue
  obtain ⟨measurement, hmem, rfl⟩ := List.mem_map.mp hvalue
  exact Decimal.isNaN_of_isFinite (hfinite measurement hmem).finite

namespace Contribution

variable {contributions : List Contribution}

theorem isFinite_of_mem_group
    (hfinite : ∀ contribution ∈ contributions, ∀ measurement ∈ contribution.measurements,
      measurement.IsFinite) (key : String) :
    ∀ measurement ∈ group key contributions, measurement.IsFinite := by
  intro measurement hmem
  obtain ⟨contribution, hgiven, -, hmeasurement⟩ := mem_group.mp hmem
  exact hfinite contribution hgiven measurement hmeasurement

/-- Each measurement is in the group of one key. -/
theorem sum_length_group {keys : List String} (hnodup : keys.Nodup)
    (hkeys : ∀ contribution ∈ contributions, contribution.key ∈ keys) :
    (keys.map fun key => (group key contributions).length).sum =
      (measurementsOf contributions).length := by
  rw [← List.sum_toFinset _ hnodup]
  -- Each contribution adds its measurements to one group, that of its key.
  induction contributions with
  | nil => exact Finset.sum_const_zero
  | cons contribution rest ih =>
      obtain ⟨hfirst, hrest⟩ := List.forall_mem_cons.mp hkeys
      have hlength : ∀ key, (group key (contribution :: rest)).length =
          (if contribution.key = key then contribution.measurements.length else 0) +
            (group key rest).length := by
        intro key
        unfold group members
        by_cases hkey : contribution.key = key
        · simp [hkey, measurementsOf]
        · simp [hkey]
      calc ∑ key ∈ keys.toFinset, (group key (contribution :: rest)).length
          = ∑ key ∈ keys.toFinset,
              (if contribution.key = key then contribution.measurements.length else 0) +
                ∑ key ∈ keys.toFinset, (group key rest).length := by
            simp only [hlength, Finset.sum_add_distrib]
        _ = contribution.measurements.length + (measurementsOf rest).length := by
            rw [Finset.sum_ite_eq, if_pos (List.mem_toFinset.mpr hfirst), ih hrest]
        _ = (measurementsOf (contribution :: rest)).length := by
            simp [measurementsOf]

theorem keysOf_eq_eraseDups
    (hmeasured : ∀ contribution ∈ contributions, contribution.measurements ≠ []) :
    keysOf contributions = (contributions.map key).eraseDups := by
  have hall : (contributions.filter fun contribution => !contribution.measurements.isEmpty) =
      contributions := by
    rw [List.filter_eq_self]
    intro contribution hmem
    simpa using hmeasured contribution hmem
  rw [keysOf, hall, distinct_eq_eraseDups]

end Contribution

/-! ### Summaries -/

namespace Summary

open Contribution (group keysOf members)

/-- A summary describes the measurements that contributions have under its key, and the texts of
their parameters. -/
structure Describes (summary : Summary) (contributions : List Contribution) : Prop where
  count : summary.count = (group summary.key contributions).length
  least_mem : ∃ measurement ∈ group summary.key contributions,
    measurement.number = summary.least
  least_le : ∀ measurement ∈ group summary.key contributions,
    Decimal.le summary.least measurement.number = true
  greatest_mem : ∃ measurement ∈ group summary.key contributions,
    measurement.number = summary.greatest
  le_greatest : ∀ measurement ∈ group summary.key contributions,
    Decimal.le measurement.number summary.greatest = true
  /-- The latest measurement is the first of those at the greatest instant. -/
  latest : ∃ earlier latest later,
    group summary.key contributions = earlier ++ latest :: later ∧
      (∀ measurement ∈ earlier, measurement.timestamp.instant < latest.timestamp.instant) ∧
      (∀ measurement ∈ later, measurement.timestamp.instant ≤ latest.timestamp.instant) ∧
      summary.latestValue = latest.number ∧
      summary.latestMoment = Time.Moment.atUtc latest.timestamp.instant
  mem_sources : ∀ source, source ∈ summary.sources ↔
    ∃ measurement ∈ group summary.key contributions, measurement.source = source
  nodup_sources : summary.sources.Nodup
  displayName : Json.IsFirstText
    ((members summary.key contributions).map (·.parameter.displayName)) summary.key
    summary.displayName
  unit : Json.IsFirstText ((members summary.key contributions).map (·.parameter.unit)) ""
    summary.unit
  description : Json.IsFirstText
    ((members summary.key contributions).map (·.parameter.description)) "" summary.description

theorem mem_sourcesOf {source : String} {measurements : List Measurement} :
    source ∈ sourcesOf measurements ↔
      ∃ measurement ∈ measurements, measurement.source = source := by
  rw [sourcesOf, List.mem_mergeSort, Contribution.mem_distinct, List.mem_map]

theorem nodup_sourcesOf (measurements : List Measurement) : (sourcesOf measurements).Nodup :=
  (List.mergeSort_perm _ _).nodup_iff.mpr (Contribution.nodup_distinct _)

variable {contributions : List Contribution} {summary : Summary}

theorem describes_of_ofGroup? {key : String}
    (hplain : ∀ contribution ∈ contributions, contribution.parameter.IsPlain)
    (hfinite : ∀ measurement ∈ group key contributions, measurement.IsFinite)
    (hsummary : ofGroup? contributions key = some summary) : summary.Describes contributions := by
  obtain ⟨latest, hlatest, rfl⟩ := Option.map_eq_some_iff.mp hsummary
  have hsome : group key contributions ≠ [] := by
    intro hnone
    rw [latest?_eq_none_iff.mpr hnone] at hlatest
    cases hlatest
  have hnumbers := Measurement.areNumbers hfinite
  have hvalues : Measurement.numbers (group key contributions) ≠ [] :=
    mt List.map_eq_nil_iff.mp hsome
  have hparameters : ∀ text : Parameter → Json,
      (∀ parameter : Parameter, parameter.IsPlain → (text parameter).IsTextOrNull) →
      ∀ fallback, Json.IsFirstText ((members key contributions).map fun contribution =>
        text contribution.parameter) fallback (firstGiven (((members key contributions).map
          (·.parameter)).map text) fallback) := by
    intro text htext fallback
    rw [List.map_map]
    apply isFirstText_firstGiven
    intro value hvalue
    obtain ⟨contribution, hmem, rfl⟩ := List.mem_map.mp hvalue
    exact htext _ (hplain contribution (List.mem_of_mem_filter hmem))
  rw [latest?_eq_argmax] at hlatest
  obtain ⟨earlier, later, hsplit, hearlier, hlater⟩ := Extremes.exists_split_of_argmax hlatest
  constructor
  case count =>
    change (Statistics.numbers (Measurement.numbers (group key contributions))).length = _
    rw [Statistics.numbers_eq_self hnumbers]
    exact List.length_map _
  case least_mem => exact List.mem_map.mp (Statistics.least_mem hnumbers hvalues)
  case least_le =>
    exact fun measurement hmem =>
      Statistics.least_le hnumbers hvalues (List.mem_map_of_mem hmem)
  case greatest_mem => exact List.mem_map.mp (Statistics.greatest_mem hnumbers hvalues)
  case le_greatest =>
    exact fun measurement hmem =>
      Statistics.le_greatest hnumbers hvalues (List.mem_map_of_mem hmem)
  case latest => exact ⟨earlier, latest, later, hsplit, hearlier, hlater, rfl, rfl⟩
  case mem_sources => exact fun source => mem_sourcesOf
  case nodup_sources => exact nodup_sourcesOf _
  case displayName => exact hparameters _ (fun _ hplain => hplain.displayName) _
  case unit => exact hparameters _ (fun _ hplain => hplain.unit) _
  case description => exact hparameters _ (fun _ hplain => hplain.description) _

/-- A summary of finite measurements counts all of its group. -/
theorem count_ofGroup? {key : String}
    (hfinite : ∀ measurement ∈ group key contributions, measurement.IsFinite) :
    (ofGroup? contributions key).map (·.count) =
      if group key contributions = [] then none else some (group key contributions).length := by
  unfold ofGroup?
  cases hlatest : latest? (group key contributions) with
  | none =>
      rw [if_pos (latest?_eq_none_iff.mp hlatest)]
      rfl
  | some latest =>
      have hsome : group key contributions ≠ [] := by
        intro hnone
        rw [latest?_eq_none_iff.mpr hnone] at hlatest
        cases hlatest
      rw [if_neg hsome]
      change some (Statistics.numbers (Measurement.numbers (group key contributions))).length = _
      rw [Statistics.numbers_eq_self (Measurement.areNumbers hfinite), Measurement.numbers,
        List.length_map]

/-- Summaries of finite measurements count each of them once. -/
theorem sum_count_summariesOf
    (hmeasured : ∀ contribution ∈ contributions, contribution.measurements ≠ [])
    (hfinite : ∀ contribution ∈ contributions, ∀ measurement ∈ contribution.measurements,
      measurement.IsFinite) :
    ((summariesOf contributions).map (·.count)).sum =
      (Contribution.measurementsOf contributions).length := by
  have hcount : ∀ key ∈ keysOf contributions, (ofGroup? contributions key).map (·.count) =
      some (group key contributions).length := by
    intro key hkey
    rw [count_ofGroup? (Contribution.isFinite_of_mem_group hfinite key),
      if_neg (Contribution.mem_keysOf.mp hkey)]
  rw [summariesOf, List.map_filterMap, List.filterMap_congr hcount, List.filterMap_eq_map']
  apply Contribution.sum_length_group (Contribution.nodup_keysOf contributions)
  intro contribution hgiven
  rw [Contribution.keysOf_eq_eraseDups hmeasured, List.mem_eraseDups]
  exact List.mem_map_of_mem hgiven

/-- Regular contributions under canonical keys have the summaries of their groups. -/
theorem ofContributions_eq_ok
    (hkeyed : ∀ contribution ∈ contributions, contribution.IsKeyed)
    (hregular : ∀ contribution ∈ contributions, contribution.IsRegular) :
    ofContributions contributions = .ok (summariesOf contributions) := by
  have hnumbers : ∀ contribution ∈ contributions, ∀ measurement ∈ contribution.measurements,
      Column.IsNumber measurement.value := fun contribution hgiven measurement hmem =>
    ((hregular contribution hgiven).finite measurement hmem).value
  apply (ofContributions_eq_ok_iff hkeyed hnumbers).mpr ⟨?_, rfl⟩
  intro summary hsummary
  obtain ⟨latest, hlatest, hsame⟩ := Option.map_eq_some_iff.mp (mem_summariesOf.mp hsummary)
  obtain ⟨contribution, hgiven, -, hmem⟩ := Contribution.mem_group.mp (mem_of_latest? hlatest)
  rw [← hsame, instant_ofNumbers]
  exact (hregular contribution hgiven).inside latest hmem

/-- Regular contributions with plain parameters have one summary for each canonical key, in the
order in which the keys first appear, and each summary describes the measurements under its key. -/
theorem ofContributions_describes
    (hplain : ∀ contribution ∈ contributions, contribution.parameter.IsPlain)
    (hregular : ∀ contribution ∈ contributions, contribution.IsRegular) :
    (∀ contribution ∈ contributions,
      contribution.parameter.canonicalKey = .ok contribution.key) ∧
    ∃ summaries, ofContributions contributions = .ok summaries ∧
      summaries.map (·.key) = (contributions.map Contribution.key).eraseDups ∧
      (summaries.map (·.key)).Nodup ∧
      (∀ region, ∀ summary ∈ summaries,
        (Report.mk region summaries).get? summary.key = some summary) ∧
      (summaries.map (·.count)).sum = (Contribution.measurementsOf contributions).length ∧
      ∀ summary ∈ summaries, summary.Describes contributions := by
  have hkeyed : ∀ contribution ∈ contributions, contribution.IsKeyed :=
    fun contribution hgiven => (hplain contribution hgiven).exists_canonicalKey
  have hkeys : keysOf contributions = (contributions.map Contribution.key).eraseDups :=
    Contribution.keysOf_eq_eraseDups fun contribution hgiven =>
      (hregular contribution hgiven).measured
  have hdescribes : ∀ summary ∈ summariesOf contributions, summary.Describes contributions := by
    intro summary hsummary
    apply describes_of_ofGroup? hplain _ (mem_summariesOf.mp hsummary)
    exact Contribution.isFinite_of_mem_group
      (fun contribution hgiven => (hregular contribution hgiven).finite) summary.key
  refine ⟨fun contribution hgiven => Contribution.canonicalKey_of_isKeyed (hkeyed _ hgiven),
    summariesOf contributions, ofContributions_eq_ok hkeyed hregular, ?_, ?_, ?_, ?_, hdescribes⟩
  · rw [map_key_summariesOf, hkeys]
  · rw [map_key_summariesOf]
    exact Contribution.nodup_keysOf contributions
  · intro region summary hsummary
    rw [get?_summariesOf]
    exact mem_summariesOf.mp hsummary
  · have hcounts : (summariesOf contributions).map (·.count) =
        (keysOf contributions).map fun key => (group key contributions).length := by
      rw [← map_key_summariesOf, List.map_map]
      exact List.map_congr_left fun summary hsummary => (hdescribes summary hsummary).count
    rw [hcounts]
    apply Contribution.sum_length_group (Contribution.nodup_keysOf contributions)
    intro contribution hgiven
    rw [hkeys, List.mem_eraseDups]
    exact List.mem_map_of_mem hgiven

/-- A contribution of one measurement by a source, with the value and the instant given. -/
def reported (name : String) (value : Float) (instant : Int) (source : String) : Contribution where
  station := ⟨"s1", .null, .int 52, .int 21, source⟩
  parameter := ⟨"p1", .text name, .null, .text "", .null, source⟩
  measurements := [⟨.float value, ⟨instant, none⟩, "s1", name, source⟩]

/-- Two sources that report one key at the same instant, and another key between them. -/
def interleaved : List Contribution :=
  [reported "SO2" 1 0 "GIOS", reported "PM10" 2 0 "GIOS", reported "so2 (ug)" 3 0 "OPENAQ"]

theorem reported_isPlain (name : String) (value : Float) (instant : Int) (source : String) :
    (reported name value instant source).parameter.IsPlain := ⟨trivial, trivial, trivial, trivial⟩

theorem reported_isRegular {name : String} {value : Float} {instant : Int} {source : String}
    (hfinite : Decimal.isFinite value = true) (hinside : Time.inCalendar instant = true) :
    (reported name value instant source).IsRegular where
  measured := List.cons_ne_nil _ _
  finite measurement hmem := by
    obtain rfl := List.mem_singleton.mp hmem
    exact ⟨trivial, hfinite⟩
  inside measurement hmem := by
    obtain rfl := List.mem_singleton.mp hmem
    exact (congrArg Time.inCalendar (Int.sub_zero instant)).trans hinside

theorem interleaved_isRegular : ∀ contribution ∈ interleaved, contribution.IsRegular := by
  simp only [interleaved, List.forall_mem_cons]
  exact ⟨reported_isRegular (by decide) (by decide), reported_isRegular (by decide) (by decide),
    reported_isRegular (by decide) (by decide), nofun⟩

theorem ofContributions_describes_interleaved :
    (∀ contribution ∈ interleaved, contribution.parameter.IsPlain ∧ contribution.IsRegular) ∧
      ∃ summaries, ofContributions interleaved = .ok summaries ∧
        summaries.map (·.key) = ["SO2", "PM10"] ∧ (summaries.map (·.count)).sum = 3 ∧
        ∀ summary ∈ summaries, summary.Describes interleaved := by
  have hplain : ∀ contribution ∈ interleaved, contribution.parameter.IsPlain := by
    simp [interleaved, reported_isPlain]
  obtain ⟨-, summaries, hsummaries, hkeys, -, -, hcounts, hdescribes⟩ :=
    ofContributions_describes hplain interleaved_isRegular
  refine ⟨fun contribution hmem =>
      ⟨hplain contribution hmem, interleaved_isRegular contribution hmem⟩,
    summaries, hsummaries, hkeys.trans ?_, hcounts, hdescribes⟩
  decide

end Summary

end AirQuality
