import AirQuality.Proofs.Decimal.Layout
import AirQuality.Proofs.Reading.Selection
import AirQuality.Proofs.Time.Fraction

/-!
# Measurements as records

A measurement is written as a record again, with its moment as a text and its value as a number.
Timestamps with up to six digits of a fraction stand for whole microseconds, which a moment holds,
so that the records of measurements have the very readings that these were made of.  These are
selected already: the same limits select all of them, in the same order.
-/

namespace AirQuality

open Outcome
open Time (Moment)

/-- The record of a measurement. -/
def Measurement.toRecord (measurement : Measurement) : Record :=
  ⟨.text measurement.timestamp.iso, measurement.value⟩

/-- The text of a timestamp, if it is one, has no more than six digits of a fraction. -/
def Record.IsCoarse (record : Record) : Prop :=
  ∀ raw, record.timestamp = .text raw → ∀ stamp ∈ Time.Stamp.ofText? raw, stamp.isFine = false

theorem Record.isCoarse_of_text {raw : String}
    (hcoarse : (Time.Stamp.ofText? raw).all (fun stamp => !stamp.isFine) = true) (value : Json) :
    Record.IsCoarse ⟨.text raw, value⟩ := by
  intro other hother stamp hstamp
  cases hother
  have hnot := Option.all_eq_true _ _ |>.mp hcoarse stamp hstamp
  exact Bool.eq_false_of_not_eq_true' hnot

/-! ### Timestamps -/

namespace Column

/-- A number or a flag is written without the mark of a time, so it has no fraction. -/
theorem isFine_of_arePlain {text : List Char} (hplain : Decimal.ArePlain text) {stamp : Time.Stamp}
    (hread : Time.Stamp.ofChars? text = some stamp) : stamp.isFine = false := by
  have hmarks : ¬Decimal.isPlain 'T' = true ∧ ¬Decimal.isPlain ' ' = true := by decide
  exact Time.Stamp.isFine_of_unmarked hread (mt (hplain 'T') hmarks.1) (mt (hplain ' ') hmarks.2)

theorem stampIn_text (raw : String) : stampIn false (.text raw) = Time.Stamp.ofText? raw := rfl

/-- A cell stands for its own text or for that of a number. -/
theorem arePlain_stampText? {kind : Kind} {cell : Json} {text : List Char}
    (htext : stampText? kind cell = some text) :
    (∃ raw, cell = .text raw ∧ text = raw.toList) ∨ Decimal.ArePlain text := by
  unfold stampText? at htext
  split at htext
  · cases htext
  · split at htext
    · split at htext
      · cases htext
        exact .inr (Decimal.arePlain_intText _)
      · cases htext
    · cases htext
  · cases htext
    exact .inl ⟨_, rfl, rfl⟩
  · split at htext
    · cases htext
    · cases htext
      exact .inr (Decimal.arePlain_intText _)
  · cases htext
    exact .inr (Decimal.arePlain_floatText _)
  · cases htext

/-- A timestamp is read from a text, without more than six digits of a fraction. -/
theorem exists_text_of_stampIn {record : Record} (hcoarse : record.IsCoarse) {isNumber : Bool}
    {stamp : Time.Stamp} (hstamp : stampIn isNumber record.timestamp = some stamp) :
    ∃ text, Time.Stamp.ofChars? text = some stamp ∧ stamp.isFine = false := by
  unfold stampIn at hstamp
  split at hstamp
  · obtain ⟨text, htext, hread⟩ := Option.bind_eq_some_iff.mp hstamp
    rcases arePlain_stampText? htext with ⟨raw, hcell, -⟩ | hplain
    · cases hcell
    · exact ⟨text, hread, isFine_of_arePlain hplain hread⟩
  · obtain ⟨text, htext, hread⟩ := Option.bind_eq_some_iff.mp hstamp
    rcases arePlain_stampText? htext with ⟨raw, hcell, rfl⟩ | hplain
    · exact ⟨_, hread, hcoarse raw hcell stamp hread⟩
    · exact ⟨text, hread, isFine_of_arePlain hplain hread⟩

/-- A timestamp without a finer fraction stands for a whole number of microseconds. -/
theorem nanos_mod_of_stampIn {record : Record} (hcoarse : record.IsCoarse) {isNumber : Bool}
    {stamp : Time.Stamp} (hstamp : stampIn isNumber record.timestamp = some stamp) :
    stamp.nanos % 1000 = 0 := by
  obtain ⟨text, hread, hfine⟩ := exists_text_of_stampIn hcoarse hstamp
  exact Time.Stamp.nanos_mod_of_coarse hread hfine

end Column

/-! ### Readings -/

namespace Reading

variable {now : Moment} {limits : Limits} {oldest : Option Moment} {records : List Record}

/-- A reading that a measurement says all about: it is in the calendar, at a whole number of
microseconds. -/
structure IsExact (reading : Reading) : Prop where
  micros : reading.instant % 1000 = 0
  dated : Time.inCalendar (reading.instant / 1000) = true
  finite : Decimal.isFinite reading.value = true

/-- The records of the measurements of readings. -/
def written (tag : Measurement.Tag) (readings : List Reading) : List Record :=
  readings.map fun reading => (Measurement.ofDated tag reading).toRecord

variable {tag : Measurement.Tag} {readings : List Reading} {reading : Reading}

theorem stampIn_toRecord (hexact : reading.IsExact) :
    Column.stampIn false (Measurement.ofDated tag reading).toRecord.timestamp =
      some ⟨reading.instant, false⟩ := by
  have hmicros : reading.instant / 1000 * 1000 = reading.instant :=
    Int.ediv_mul_cancel (Int.dvd_of_emod_eq_zero hexact.micros)
  calc
    Column.stampIn false (Measurement.ofDated tag reading).toRecord.timestamp =
        Time.Stamp.ofText? (Moment.atUtc (reading.instant / 1000)).iso := Column.stampIn_text _
    _ = some ⟨reading.instant / 1000 * 1000, false⟩ := Time.Stamp.ofText?_iso rfl hexact.dated
    _ = some ⟨reading.instant, false⟩ := by rw [hmicros]

/-- Texts and binary64 numbers are read one by one. -/
theorem contextOf_written (hne : readings ≠ []) (hexact : ∀ reading ∈ readings, reading.IsExact) :
    contextOf (written tag readings) = ⟨false, false, false⟩ := by
  have htexts : Column.AreTexts ((written tag readings).map (·.timestamp)) := by
    intro cell hcell
    obtain ⟨record, hrecord, rfl⟩ := List.mem_map.mp hcell
    obtain ⟨reading, -, rfl⟩ := List.mem_map.mp hrecord
    exact ⟨_, rfl⟩
  have hnumbers : (contextOf (written tag readings)).areNumbers = false := by
    refine decide_eq_false fun hnumber => ?_
    rcases Column.kindOf_of_areTexts htexts with hkind | hnone
    · rw [hkind] at hnumber
      cases hnumber
    · rw [hnone] at hnumber
      cases hnumber
  have hfine : (contextOf (written tag readings)).isFine = false := by
    refine Bool.eq_false_iff.mpr fun hsome => ?_
    obtain ⟨record, hrecord, stamp, hstamp, hisFine⟩ := (isFine_contextOf_iff _).mp hsome
    obtain ⟨reading, hreading, rfl⟩ := List.mem_map.mp hrecord
    rw [hnumbers, stampIn_toRecord (hexact reading hreading)] at hstamp
    cases hstamp
    cases hisFine
  have hwhole : (contextOf (written tag readings)).areWhole = false := by
    obtain ⟨reading, hreading⟩ := List.exists_mem_of_ne_nil readings hne
    have hcell : Json.float reading.value ∈ (written tag readings).map (·.value) :=
      List.mem_map_of_mem (List.mem_map_of_mem hreading)
    exact Column.areWhole_eq_false hcell rfl
  calc
    contextOf (written tag readings) =
        ⟨(contextOf (written tag readings)).areNumbers, (contextOf (written tag readings)).isFine,
          (contextOf (written tag readings)).areWhole⟩ := rfl
    _ = ⟨false, false, false⟩ := by rw [hnumbers, hfine, hwhole]

theorem ofRecord?_toRecord (hexact : reading.IsExact) :
    ofRecord? ⟨false, false, false⟩ (Measurement.ofDated tag reading).toRecord = some reading := by
  refine (ofRecord?_eq_some_iff _ _ reading).mpr ⟨?_, rfl, hexact.finite⟩
  rw [stampIn_toRecord hexact]
  rfl

/-- The records of the measurements of readings have these readings. -/
theorem fresh_written (hne : readings ≠ []) (hexact : ∀ reading ∈ readings, reading.IsExact)
    (hnewer : ∀ reading ∈ readings, isNewer oldest reading = true) :
    fresh oldest (contextOf (written tag readings)) (written tag readings) = readings := by
  have hread : (written tag readings).filterMap (ofRecord? ⟨false, false, false⟩) =
      readings.filterMap some := by
    rw [written, List.filterMap_map]
    refine List.filterMap_congr fun reading hreading => ?_
    rw [Function.comp_apply, ofRecord?_toRecord (hexact reading hreading)]
  rw [contextOf_written hne hexact, fresh, hread, List.filterMap_some,
    List.filter_eq_self.mpr hnewer]

theorem capped_capped {α : Type} (count : Option Int) (items : List α) :
    capped count (capped count items) = capped count items := by
  cases count with
  | none => rfl
  | some count =>
      simp only [capped]
      rw [List.take_take, Nat.min_self]

/-- What has been selected is selected as it is. -/
theorem select_again (count : Option Int) (fresh : List Reading) :
    capped count (newestFirst (capped count (newestFirst fresh))) =
      capped count (newestFirst fresh) := by
  have hsorted := List.pairwise_mergeSort isNotOlder_trans isNotOlder_total fresh
  have hstays : newestFirst (capped count (newestFirst fresh)) = capped count (newestFirst fresh) :=
    List.mergeSort_of_pairwise (hsorted.sublist (capped_sublist count _))
  rw [hstays, capped_capped]

/-- A timestamp that stands for an instant is no flag. -/
theorem ne_flag_of_stampIn {record : Record} (hmem : record ∈ records) {stamp : Time.Stamp}
    (hstamp : Column.stampIn (contextOf records).areNumbers record.timestamp = some stamp)
    (flag : Bool) : record.timestamp ≠ .bool flag := by
  intro hflag
  cases hnumbers : (contextOf records).areNumbers with
  | false =>
      rw [hnumbers, hflag] at hstamp
      cases hstamp
  | true =>
      have hnumeric := (Column.surveyFrom_eq_number (of_decide_eq_true hnumbers)).2.1 _
        (List.mem_map_of_mem hmem)
      rw [hflag] at hnumeric
      exact hnumeric

/-- The timestamp of a reading is no flag. -/
theorem timestamp_ne_flag {record : Record} (hmem : record ∈ records)
    (hread : ofRecord? (contextOf records) record = some reading) (flag : Bool) :
    record.timestamp ≠ .bool flag := by
  obtain ⟨stamp, hstamp, -⟩ := exists_stampIn_of_ofRecord? hread
  exact ne_flag_of_stampIn hmem hstamp flag

/-- The records of measurements are readable if those that the measurements were made of are. -/
theorem areReadable_written (hreadable : AreReadable oldest records) (hmem : reading ∈ readings)
    (horigin : ∃ record ∈ records, ofRecord? (contextOf records) record = some reading) :
    AreReadable oldest (written tag readings) := by
  obtain ⟨record, hrecord, hread⟩ := horigin
  have hwritten : (Measurement.ofDated tag reading).toRecord ∈ written tag readings :=
    List.mem_map_of_mem hmem
  refine areReadable_of_aware ?_ (fun limit hlimit => ?_) hwritten nofun
  · intro written hmem
    obtain ⟨reading, -, rfl⟩ := List.mem_map.mp hmem
    exact nofun
  · refine Bool.eq_false_iff.mpr fun hnaive => ?_
    have hflags := (hreadable.timestamps (List.ne_nil_of_mem hrecord) limit hlimit).mp hnaive
    obtain ⟨flag, hflag⟩ := hflags record hrecord
    exact timestamp_ne_flag hrecord hread flag hflag

/-- A selected reading is that of a record, and newer than the cutoff. -/
theorem exists_record_of_mem_selection {count : Option Int} {context : Context}
    (hmem : reading ∈ capped count (newestFirst (fresh oldest context records))) :
    (∃ record ∈ records, ofRecord? context record = some reading) ∧
      isNewer oldest reading = true := by
  have hfresh := List.mem_mergeSort.mp ((capped_sublist count _).subset hmem)
  obtain ⟨hread, hnewer⟩ := List.mem_filter.mp hfresh
  exact ⟨List.mem_filterMap.mp hread, hnewer⟩

theorem isExact_of_isCoarse {record : Record} (hcoarse : record.IsCoarse) {context : Context}
    (hread : ofRecord? context record = some reading)
    (hdated : Time.inCalendar (reading.instant / 1000) = true) : reading.IsExact := by
  obtain ⟨stamp, hstamp, hinstant⟩ := exists_stampIn_of_ofRecord? hread
  have hmicros := Column.nanos_mod_of_stampIn hcoarse hstamp
  obtain ⟨-, -, hfinite⟩ := (ofRecord?_eq_some_iff _ _ _).mp hread
  exact ⟨hinstant ▸ hmicros, hdated, hfinite⟩

end Reading

/-! ### Measurements -/

namespace Measurement

/-- Measurements are made again of their own records. -/
theorem ofRecords_toRecord (tag : Tag) (now : Moment) (limits : Limits) (records : List Record)
    (hcoarse : ∀ record ∈ records, record.IsCoarse) {measurements : List Measurement}
    (hmade : ofRecords tag now limits none records = .ok measurements) :
    ofRecords tag now limits none (measurements.map toRecord) = .ok measurements := by
  by_cases hnone : measurements = []
  · rw [hnone]
    rfl
  have hne : records ≠ [] := by
    rintro rfl
    exact hnone (Except.ok.inj hmade).symm
  obtain ⟨readings, hselect, -⟩ := bind_eq_ok hmade
  obtain ⟨oldest, hcutoff⟩ := Reading.exists_cutoff_of_select hne hselect
  obtain ⟨hreadable, hdated, rfl⟩ := (ofRecords_eq_ok_iff_capped hcutoff records _).mp hmade
  generalize hselected : Reading.capped limits.maxCount (Reading.newestFirst
    (Reading.fresh oldest (Reading.contextOf records) records)) = selected at hdated hnone ⊢
  have horigin (reading : Reading) (hmem : reading ∈ selected) :
      (∃ record ∈ records, Reading.ofRecord? (Reading.contextOf records) record = some reading) ∧
        Reading.isNewer oldest reading = true :=
    Reading.exists_record_of_mem_selection (hselected ▸ hmem)
  have hstays : Reading.capped limits.maxCount (Reading.newestFirst selected) = selected := by
    rw [← hselected, Reading.select_again]
  have hexact : ∀ reading ∈ selected, reading.IsExact := by
    intro reading hmem
    obtain ⟨record, hrecord, hread⟩ := (horigin reading hmem).1
    exact Reading.isExact_of_isCoarse (hcoarse record hrecord) hread (hdated reading hmem)
  have hfresh : Reading.fresh oldest (Reading.contextOf (Reading.written tag selected))
      (Reading.written tag selected) = selected :=
    Reading.fresh_written (mt List.map_eq_nil_iff.mpr hnone) hexact
      fun reading hmem => (horigin reading hmem).2
  have hwritten : (selected.map (ofDated tag)).map toRecord = Reading.written tag selected := by
    rw [List.map_map]
    rfl
  obtain ⟨first, hfirst⟩ := List.exists_mem_of_ne_nil selected (mt List.map_eq_nil_iff.mpr hnone)
  rw [hwritten, ofRecords_eq_ok_iff_capped hcutoff, hfresh, hstays]
  exact ⟨Reading.areReadable_written hreadable hfirst (horigin first hfirst).1, hdated, rfl⟩

/-- A timestamp with six digits of a fraction. -/
def precise : Record := ⟨.text "2025-06-01 11:00:00.123456+0200", .text "2.5"⟩

theorem ofRecords_toRecord_precise :
    (∀ record ∈ [atTen, precise], record.IsCoarse) ∧
      ∃ measurements, ofRecords dustTag morning ⟨some 5, some (.whole 1)⟩ none [atTen, precise] =
          .ok measurements ∧ measurements.length = 2 ∧
        ofRecords dustTag morning ⟨some 5, some (.whole 1)⟩ none (measurements.map toRecord) =
          .ok measurements := by
  have hcoarse : ∀ record ∈ [atTen, precise], record.IsCoarse :=
    List.forall_mem_cons.mpr ⟨Record.isCoarse_of_text (by decide +kernel) _,
      List.forall_mem_singleton.mpr (Record.isCoarse_of_text (by decide +kernel) _)⟩
  have hreadable : Reading.AreReadable (some yesterday) [atTen, precise] := by
    refine Reading.areReadable_of_aware ?_ (by rintro - ⟨⟩; rfl) List.mem_cons_self nofun
    exact List.forall_mem_cons.mpr ⟨nofun, List.forall_mem_singleton.mpr nofun⟩
  have hdated : (Reading.fresh (some yesterday) (Reading.contextOf [atTen, precise])
      [atTen, precise]).all (fun reading => Time.inCalendar (reading.instant / 1000)) = true := by
    decide +kernel
  have htwo : Reading.cappedCount (some 5) (Reading.fresh (some yesterday)
      (Reading.contextOf [atTen, precise]) [atTen, precise]).length = 2 := by decide +kernel
  have hcutoff : Reading.cutoff morning ⟨some 5, some (.whole 1)⟩ = .ok (some yesterday) := rfl
  obtain ⟨measurements, hmade, hlength⟩ :=
    exists_ofRecords dustTag hcutoff hreadable (List.all_eq_true.mp hdated)
  exact ⟨hcoarse, measurements, hmade, hlength.trans htwo,
    ofRecords_toRecord dustTag morning _ _ hcoarse hmade⟩

end Measurement

end AirQuality
