import AirQuality.Proofs.Outcome
import AirQuality.Summary

/-!
# Contributions that can be summarised

A summary can only fail on a parameter without a canonical key, on values that are not numbers,
and on an instant outside the calendar.  Without these there is a summary for every key.
-/

namespace AirQuality

open Outcome

namespace Column

/-- A binary64 number, or a whole number that 64 bits hold with its sign. -/
def IsNumber : Json → Prop
  | .float _ => True
  | .int value => -int64Bound ≤ value ∧ value < int64Bound
  | _ => False

theorem addWhole?_of_signed {survey : Survey} {value : Int} (hsigned : survey.unsigned = false)
    (hleast : -int64Bound ≤ value) (hgreatest : value < int64Bound) :
    ∃ next, survey.addWhole? value = some next ∧ next.flags = survey.flags ∧
      next.unsigned = false ∧ next.hasNumbers = true := by
  have hunsigned : decide (int64Bound ≤ value) = false := by
    rw [decide_eq_false_iff_not]
    exact Int.not_le.mpr hgreatest
  have hwide : ¬2 * int64Bound ≤ value := by
    unfold int64Bound at hgreatest ⊢
    omega
  refine ⟨{ survey with
    wholes := true, unsigned := false, negative := survey.negative || decide (value < 0) },
    ?_, rfl, rfl, rfl⟩
  simp [Survey.addWhole?, hsigned, hunsigned, hwide, Int.not_lt.mpr hleast]

/-- Numbers make up a column of numbers. -/
theorem surveyFrom_of_isNumber {all : List Json} {survey : Survey} {cells : List Json}
    (hflags : survey.flags = false) (hsigned : survey.unsigned = false)
    (hsome : survey.hasNumbers = true ∨ cells ≠ []) (hcells : ∀ cell ∈ cells, IsNumber cell) :
    surveyFrom all survey cells = .whole ∨ surveyFrom all survey cells = .number := by
  induction cells generalizing survey with
  | nil =>
      have hnumbers : survey.hasNumbers = true := hsome.resolve_right fun hnil => hnil rfl
      simp only [surveyFrom, Survey.kind, hflags, hnumbers]
      by_cases hfractions : survey.fractions || survey.notNumbers || survey.nulls
      · right
        simp [hfractions]
      · left
        simp [hfractions]
  | cons cell rest ih =>
      obtain ⟨hcell, hrest⟩ := List.forall_mem_cons.mp hcells
      cases cell with
      | float value =>
          simp only [surveyFrom]
          by_cases hnan : Decimal.isNaN value
          · rw [if_pos hnan]
            exact ih hflags hsigned (.inl (by simp [Survey.hasNumbers])) hrest
          · rw [if_neg hnan]
            exact ih hflags hsigned (.inl (by simp [Survey.hasNumbers])) hrest
      | int value =>
          obtain ⟨hleast, hgreatest⟩ := hcell
          obtain ⟨next, hadd, hnextFlags, hnextSigned, hnumbers⟩ :=
            addWhole?_of_signed hsigned hleast hgreatest
          simp only [surveyFrom, hadd]
          exact ih (hnextFlags.trans hflags) hnextSigned (.inl hnumbers) hrest
      | _ => exact hcell.elim

theorem kindOf_of_isNumber {cells : List Json} (hsome : cells ≠ [])
    (hcells : ∀ cell ∈ cells, IsNumber cell) : kindOf cells = .whole ∨ kindOf cells = .number :=
  surveyFrom_of_isNumber rfl rfl (.inr hsome) hcells

end Column

/-- A measurement whose value is a number and whose instant is in the calendar. -/
structure Measurement.IsSound (measurement : Measurement) : Prop where
  value : Column.IsNumber measurement.value
  instant : Time.inCalendar measurement.timestamp.instant = true

namespace Contribution

/-- A contribution whose parameter has a canonical key. -/
def IsKeyed (contribution : Contribution) : Prop :=
  ∃ key, contribution.parameter.canonicalKey = .ok key

def IsSound (contribution : Contribution) : Prop :=
  ∀ measurement ∈ contribution.measurements, measurement.IsSound

theorem mem_measurementsOf {contributions : List Contribution} {measurement : Measurement} :
    measurement ∈ measurementsOf contributions ↔
      ∃ contribution ∈ contributions, measurement ∈ contribution.measurements := by
  rw [measurementsOf, List.mem_flatMap]

theorem exists_keyed {contributions : List Contribution}
    (hkeyed : ∀ contribution ∈ contributions, contribution.IsKeyed) :
    ∃ entries, keyed contributions = .ok entries := by
  apply exists_mapM
  intro contribution hmem
  obtain ⟨key, hkey⟩ := hkeyed contribution hmem
  exact ⟨(key, contribution), by rw [hkey]; rfl⟩

/-- The contributions under a key are some of those that were given keys. -/
theorem mem_of_mem_under {contributions : List Contribution}
    {entries : List (String × Contribution)} (hkeyed : keyed contributions = .ok entries)
    {key : String} {contribution : Contribution} (hmem : contribution ∈ under key entries) :
    contribution ∈ contributions := by
  obtain ⟨entry, hentry, rfl⟩ := List.mem_map.mp hmem
  obtain ⟨other, hother, hread⟩ := exists_mem_of_mapM hkeyed (List.mem_filter.mp hentry).1
  cases hkey : other.parameter.canonicalKey with
  | error failure =>
      rw [hkey] at hread
      cases hread
  | ok name =>
      rw [hkey] at hread
      cases hread
      exact hother

end Contribution

namespace Summary

theorem mem_of_latest? {measurements : List Measurement} {latest : Measurement}
    (hlatest : latest? measurements = some latest) : latest ∈ measurements := by
  induction measurements with
  | nil => cases hlatest
  | cons measurement rest ih =>
      rw [latest?] at hlatest
      cases hrest : latest? rest with
      | none =>
          rw [hrest] at hlatest
          cases hlatest
          exact List.mem_cons_self
      | some other =>
          rw [hrest] at hlatest
          by_cases hlater : measurement.timestamp.instant < other.timestamp.instant
          · simp only [if_pos hlater, Option.some.injEq] at hlatest
            exact List.mem_cons_of_mem measurement (ih (hlatest ▸ hrest))
          · simp only [if_neg hlater, Option.some.injEq] at hlatest
            exact hlatest ▸ List.mem_cons_self

theorem exists_ofMembers {kind : Column.Kind} (hkind : kind = .whole ∨ kind = .number)
    {latest : Measurement} (hsound : latest.IsSound) (key : String)
    (members : List Contribution) : ∃ summary, ofMembers kind key members latest = .ok summary := by
  have hmoment : onUtc latest.timestamp = .ok (Time.Moment.atUtc latest.timestamp.instant) := by
    rw [onUtc, if_pos hsound.instant]
  cases hkind with
  | inl hwhole =>
      subst hwhole
      simp only [ofMembers, meanOf, latestNumber, hmoment, ok_bind, pure_eq_ok]
      exact ⟨_, rfl⟩
  | inr hnumber =>
      subst hnumber
      simp only [ofMembers, meanOf, latestNumber, hmoment, ok_bind, pure_eq_ok]
      exact ⟨_, rfl⟩

theorem exists_ofKey {kind : Column.Kind} (hkind : kind = .whole ∨ kind = .number)
    {contributions : List Contribution} {entries : List (String × Contribution)}
    (hkeyed : Contribution.keyed contributions = .ok entries)
    (hsound : ∀ contribution ∈ contributions, contribution.IsSound) (key : String) :
    ∃ summary, ofKey kind entries key = .ok summary := by
  simp only [ofKey]
  cases hlatest : latest? (Contribution.measurementsOf (Contribution.under key entries)) with
  | none => exact ⟨none, rfl⟩
  | some latest =>
      obtain ⟨contribution, hcontribution, hmem⟩ :=
        Contribution.mem_measurementsOf.mp (mem_of_latest? hlatest)
      have hgiven := Contribution.mem_of_mem_under hkeyed hcontribution
      obtain ⟨summary, hsummary⟩ := exists_ofMembers hkind
        (hsound contribution hgiven latest hmem) key (Contribution.under key entries)
      refine ⟨some summary, ?_⟩
      simp only [hsummary, ok_bind, pure_eq_ok]

/-- The values of contributions of numbers make up a column of numbers. -/
theorem kindOfValues_of_isNumber {contributions : List Contribution}
    (hsome : Contribution.measurementsOf contributions ≠ [])
    (hnumbers : ∀ contribution ∈ contributions, ∀ measurement ∈ contribution.measurements,
      Column.IsNumber measurement.value) :
    kindOfValues contributions = .whole ∨ kindOfValues contributions = .number := by
  apply Column.kindOf_of_isNumber (mt List.map_eq_nil_iff.mp hsome)
  intro value hvalue
  obtain ⟨measurement, hmem, rfl⟩ := List.mem_map.mp hvalue
  obtain ⟨contribution, hgiven, hmem⟩ := Contribution.mem_measurementsOf.mp hmem
  exact hnumbers contribution hgiven measurement hmem

/-- Sound contributions under canonical keys can be summarised. -/
theorem exists_ofContributions {contributions : List Contribution}
    (hkeyed : ∀ contribution ∈ contributions, contribution.IsKeyed)
    (hsound : ∀ contribution ∈ contributions, contribution.IsSound) :
    ∃ summaries, ofContributions contributions = .ok summaries := by
  unfold ofContributions
  by_cases hempty : (Contribution.measurementsOf contributions).isEmpty
  · rw [if_pos hempty]
    exact ⟨[], rfl⟩
  · rw [if_neg hempty]
    have hkind := kindOfValues_of_isNumber (mt List.isEmpty_iff.mpr hempty)
      fun contribution hgiven measurement hmem =>
        (hsound contribution hgiven measurement hmem).value
    obtain ⟨entries, hentries⟩ := Contribution.exists_keyed hkeyed
    obtain ⟨summaries, hsummaries⟩ := exists_mapM
      fun key (_ : key ∈ Contribution.keys entries) => exists_ofKey hkind hentries hsound key
    refine ⟨summaries.filterMap id, ?_⟩
    rw [hentries, ok_bind, hsummaries]
    rfl

end Summary

end AirQuality
