import AirQuality.Proofs.Reading.Context

/-!
# Regular records

A record is regular if its value is in the reach of a binary64 number and its timestamp is no flag
and stays in the calendar.  Measurements can be made of regular records whatever the limits are, for
each selected reading is that of one of the records.
-/

namespace AirQuality

open Outcome
open Time (Moment)

structure Record.IsRegular (record : Record) : Prop where
  value : Column.IsReadable record.value
  clock : ∀ flag, record.timestamp ≠ .bool flag
  dated : ∀ isNumber stamp, Column.stampIn isNumber record.timestamp = some stamp →
    Time.inCalendar (stamp.nanos / 1000) = true

namespace Reading

variable {now : Moment} {limits : Limits} {oldest last : Option Moment} {records : List Record}

theorem within_sublist {holds : (instant limit : Int) → Bool} {kind : Column.Kind}
    {limit : Option Moment} {readings kept : List Reading}
    (hkept : within holds kind limit readings = .ok kept) : kept.Sublist readings := by
  cases limit with
  | none => exact (Except.ok.inj hkept) ▸ List.Sublist.refl readings
  | some moment =>
      obtain ⟨instant, -, hfilter⟩ := bind_eq_ok hkept
      exact (Except.ok.inj hfilter) ▸ List.filter_sublist

theorem capped_sublist {α : Type} (count : Option Int) (items : List α) :
    (capped count items).Sublist items := by
  cases count with
  | none => exact List.Sublist.refl items
  | some count => exact List.take_sublist _ _

/-- A selected reading is that of a record. -/
theorem exists_record_of_select (hcutoff : cutoff now limits = .ok oldest)
    {readings : List Reading} (hselect : select now limits last records = .ok readings)
    {reading : Reading} (hmem : reading ∈ readings) :
    ∃ record ∈ records, ofRecord? (contextOf records) record = some reading := by
  have hne : records ≠ [] := by
    rintro rfl
    cases hselect
    cases hmem
  obtain ⟨-, hsteps⟩ := (select_eq_ok_iff_of_ne_nil hcutoff hne readings).mp hselect
  obtain ⟨kept, hkept, hafter⟩ := bind_eq_ok hsteps
  obtain ⟨newer, hnewer, hcapped⟩ := bind_eq_ok hafter
  rw [← Except.ok.inj hcapped] at hmem
  have hsorted : reading ∈ newestFirst newer := (capped_sublist _ _).subset hmem
  have hnewest : reading ∈ newer := List.mem_mergeSort.mp hsorted
  have hread := (within_sublist hkept).subset ((within_sublist hnewer).subset hnewest)
  exact List.mem_filterMap.mp hread

theorem instant_of_ofCells? {instant : Option Int} {value : Float} {reading : Reading}
    (hread : ofCells? instant value = some reading) : instant = some reading.instant := by
  cases instant with
  | none => cases hread
  | some instant =>
      unfold ofCells? at hread
      by_cases hfinite : Decimal.isFinite value = true
      · simp only [hfinite, if_true] at hread
        rw [← Option.some.inj hread]
      · simp only [hfinite] at hread
        cases hread

/-- The instant of a reading is that of the stamp of its record. -/
theorem exists_stampIn_of_ofRecord? {context : Context} {record : Record} {reading : Reading}
    (hread : ofRecord? context record = some reading) :
    ∃ stamp, Column.stampIn context.areNumbers record.timestamp = some stamp ∧
      stamp.nanos = reading.instant := by
  obtain ⟨hnanos, -⟩ := Option.filter_eq_some_iff.mp (instant_of_ofCells? hread)
  exact Option.map_eq_some_iff.mp hnanos

theorem not_fault_of_isRegular (hcutoff : cutoff now limits = .ok oldest)
    (hregular : ∀ record ∈ records, record.IsRegular) (failure : Failure) :
    ¬Fault now limits last records failure := by
  intro hfault
  cases hfault with
  | number value hvalue hlarge =>
      obtain ⟨record, hrecord, hsame⟩ := List.mem_map.mp hvalue
      exact (hregular record hrecord).value value hsame hlarge
  | clock hne hflags hlimit =>
      obtain ⟨record, hrecord⟩ := List.exists_mem_of_ne_nil records hne
      obtain ⟨flag, hflag⟩ := hflags record hrecord
      exact (hregular record hrecord).clock flag hflag
  | year readings hselect reading hmem hbeyond =>
      obtain ⟨record, hrecord, hread⟩ := exists_record_of_select hcutoff hselect hmem
      obtain ⟨stamp, hstamp, hinstant⟩ := exists_stampIn_of_ofRecord? hread
      rw [← hinstant, (hregular record hrecord).dated _ stamp hstamp] at hbeyond
      cases hbeyond

end Reading

end AirQuality
