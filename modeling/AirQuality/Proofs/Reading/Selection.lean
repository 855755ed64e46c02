import AirQuality.Proofs.Reading.Insertion
import AirQuality.Proofs.Reading.Regular
import Mathlib.Data.Set.Card

/-!
# The newest eligible records

A record is eligible if its timestamp and its value can be made out, the value is finite, and the
instant is after the cutoff.  Measurements are made of the newest eligible records, as many as a cap
lets through: the newest first, and of one instant the earlier record first.
-/

namespace AirQuality

open Outcome
open Time (Moment)

/-! ### Stable sorting -/

/-- Sorting leaves items that are in order both ways as they stood. -/
theorem pairwise_mergeSort_of_pairwise {α : Type} {inOrder : α → α → Bool}
    (htrans : ∀ first second third, inOrder first second = true → inOrder second third = true →
      inOrder first third = true)
    (htotal : ∀ first second, (inOrder first second || inOrder second first) = true)
    {holds : α → α → Prop} {items : List α} (hitems : items.Pairwise holds) :
    (items.mergeSort inOrder).Pairwise fun first second =>
      inOrder first second = true ∧ (inOrder second first = true → holds first second) := by
  induction items with
  | nil => simp
  | cons item rest ih =>
      obtain ⟨hitem, hrest⟩ := List.pairwise_cons.mp hitems
      obtain ⟨before, after, hall, hothers, hlate⟩ := List.mergeSort_cons htrans htotal item rest
      have hsorted := List.pairwise_mergeSort htrans htotal (item :: rest)
      have hstable := ih hrest
      rw [hall, List.pairwise_append, List.pairwise_cons] at hsorted ⊢
      rw [hothers, List.pairwise_append] at hstable
      refine ⟨hstable.1, ⟨fun other hother => ?_, hstable.2.1⟩,
        fun first hfirst second hsecond => ?_⟩
      · have hmem : other ∈ rest.mergeSort inOrder :=
          hothers ▸ List.mem_append_right before hother
        exact ⟨hsorted.2.1.1 other hother, fun _ => hitem other (List.mem_mergeSort.mp hmem)⟩
      · rcases List.mem_cons.mp hsecond with rfl | hsecond
        · refine ⟨hsorted.2.2 first hfirst second List.mem_cons_self, fun hback => ?_⟩
          have hnot := hlate first hfirst
          rw [hback] at hnot
          cases hnot
        · exact hstable.2.2 first hfirst second hsecond

namespace Reading

/-! ### Eligible records -/

/-- A reading and the place of its record among all records. -/
structure Entry where
  place : Nat
  reading : Reading

/-- Whether an entry stands before another: it is newer, or of the same instant and from an earlier
record. -/
def Entry.Precedes (first second : Entry) : Prop :=
  second.reading.instant < first.reading.instant ∨
    second.reading.instant = first.reading.instant ∧ first.place < second.place

/-- The entry of an eligible record: the instant is what the timestamp stands for and the value what
the value does, without the sign of a zero where all values are whole. -/
structure IsEligible (oldest : Option Moment) (records : List Record) (entry : Entry) : Prop where
  made : ∃ record, records[entry.place]? = some record ∧
    Column.instantOf (contextOf records).isFine
        (Column.stampIn (contextOf records).areNumbers record.timestamp) =
      some entry.reading.instant ∧
    entry.reading.value =
      if (contextOf records).areWhole then Decimal.oneZero (Column.plainNumber record.value)
      else Column.plainNumber record.value
  finite : Decimal.isFinite entry.reading.value = true
  newer : ∀ limit ∈ oldest, limit.instant * 1000 < entry.reading.instant

/-- The places of the eligible records. -/
def eligiblePlaces (oldest : Option Moment) (records : List Record) : Set Nat :=
  {place | ∃ reading, IsEligible oldest records ⟨place, reading⟩}

/-- How many of so many items a cap lets through; a negative cap lets none through. -/
def cappedCount (count : Option Int) (available : Nat) : Nat :=
  match count with
  | none => available
  | some count => min available count.toNat

/-- The entries of the newest eligible records, in order and as many as a cap lets through. -/
structure AreNewest (oldest : Option Moment) (count : Option Int) (records : List Record)
    (kept : List Entry) : Prop where
  eligible : ∀ entry ∈ kept, IsEligible oldest records entry
  ordered : kept.Pairwise Entry.Precedes
  length : kept.length = cappedCount count (eligiblePlaces oldest records).ncard
  omitted : ∀ entry, IsEligible oldest records entry → entry ∉ kept →
    ∀ other ∈ kept, other.Precedes entry

variable {oldest : Option Moment} {records : List Record}

theorem ofRecord?_eq_some_iff (context : Context) (record : Record) (reading : Reading) :
    ofRecord? context record = some reading ↔
      Column.instantOf context.isFine (Column.stampIn context.areNumbers record.timestamp) =
          some reading.instant ∧
        reading.value =
          (if context.areWhole then Decimal.oneZero (Column.plainNumber record.value)
          else Column.plainNumber record.value) ∧
        Decimal.isFinite reading.value = true := by
  unfold ofRecord? ofCells?
  dsimp only
  generalize Column.instantOf context.isFine
    (Column.stampIn context.areNumbers record.timestamp) = instant
  generalize (if context.areWhole then Decimal.oneZero (Column.plainNumber record.value)
    else Column.plainNumber record.value) = value
  cases instant with
  | none => simp
  | some instant =>
      cases reading with
      | mk own number =>
          by_cases hfinite : Decimal.isFinite value = true
          · simp only [hfinite, if_true, Option.some.injEq, Reading.mk.injEq]
            constructor
            · rintro ⟨rfl, rfl⟩
              exact ⟨rfl, rfl, hfinite⟩
            · rintro ⟨rfl, rfl, -⟩
              exact ⟨rfl, rfl⟩
          · simp only [hfinite]
            constructor
            · exact nofun
            · rintro ⟨-, rfl, hnumber⟩
              exact absurd hnumber hfinite

theorem isNewer_iff (reading : Reading) :
    isNewer oldest reading = true ↔ ∀ limit ∈ oldest, limit.instant * 1000 < reading.instant := by
  cases oldest with
  | none => simp [isNewer]
  | some limit => simp [isNewer]

/-- The entries of the eligible records, in the order of the records. -/
def entries (oldest : Option Moment) (records : List Record) : List Entry :=
  records.zipIdx.filterMap fun (record, place) =>
    ((ofRecord? (contextOf records) record).filter (isNewer oldest)).map (Entry.mk place)

theorem mem_entries_iff (entry : Entry) :
    entry ∈ entries oldest records ↔ IsEligible oldest records entry := by
  constructor
  · intro hmem
    obtain ⟨⟨record, place⟩, hrecord, hmade⟩ := List.mem_filterMap.mp hmem
    obtain ⟨reading, hreading, rfl⟩ := Option.map_eq_some_iff.mp hmade
    obtain ⟨hread, hnewer⟩ := Option.filter_eq_some_iff.mp hreading
    obtain ⟨hinstant, hvalue, hfinite⟩ := (ofRecord?_eq_some_iff _ record reading).mp hread
    exact ⟨⟨record, List.mem_zipIdx_iff_getElem?.mp hrecord, hinstant, hvalue⟩, hfinite,
      (isNewer_iff reading).mp hnewer⟩
  · rintro ⟨⟨record, hrecord, hinstant, hvalue⟩, hfinite, hnewer⟩
    refine List.mem_filterMap.mpr ⟨(record, entry.place), ?_, ?_⟩
    · exact List.mem_zipIdx_iff_getElem?.mpr hrecord
    · have hread := (ofRecord?_eq_some_iff _ record entry.reading).mpr ⟨hinstant, hvalue, hfinite⟩
      exact Option.map_eq_some_iff.mpr ⟨entry.reading,
        Option.filter_eq_some_iff.mpr ⟨hread, (isNewer_iff _).mpr hnewer⟩, rfl⟩

theorem map_reading_entries (oldest : Option Moment) (records : List Record) :
    (entries oldest records).map (·.reading) = fresh oldest (contextOf records) records := by
  unfold entries fresh
  generalize contextOf records = context
  rw [List.map_filterMap, List.filter_filterMap]
  conv_rhs => rw [← List.zipIdx_map_fst 0 records, List.filterMap_map]
  apply List.filterMap_congr
  rintro ⟨record, place⟩ -
  change (((ofRecord? context record).filter (isNewer oldest)).map (Entry.mk place)).map
    (·.reading) = (ofRecord? context record).filter (isNewer oldest)
  rw [Option.map_map]
  exact Option.map_id_apply

theorem pairwise_place_entries (oldest : Option Moment) (records : List Record) :
    (entries oldest records).Pairwise fun first second => first.place < second.place := by
  have hplaces : records.zipIdx.Pairwise fun first second => first.2 < second.2 := by
    apply List.pairwise_map.mp
    rw [List.zipIdx_map_snd]
    exact List.pairwise_lt_range'
  refine hplaces.filterMap _ fun first second hless entry hentry other hother => ?_
  obtain ⟨reading, -, rfl⟩ := Option.map_eq_some_iff.mp hentry
  obtain ⟨another, -, rfl⟩ := Option.map_eq_some_iff.mp hother
  exact hless

theorem ncard_eligiblePlaces (oldest : Option Moment) (records : List Record) :
    (eligiblePlaces oldest records).ncard = (entries oldest records).length := by
  have hplaces : eligiblePlaces oldest records =
      ((entries oldest records).map (·.place)).toFinset := by
    ext place
    simp only [eligiblePlaces, Set.mem_ofPred_eq, List.coe_toFinset, List.mem_map]
    constructor
    · rintro ⟨reading, heligible⟩
      exact ⟨_, (mem_entries_iff _).mpr heligible, rfl⟩
    · rintro ⟨entry, hentry, rfl⟩
      exact ⟨entry.reading, (mem_entries_iff entry).mp hentry⟩
  have hnodup : ((entries oldest records).map (·.place)).Nodup :=
    List.pairwise_map.mpr ((pairwise_place_entries oldest records).imp Nat.ne_of_lt)
  rw [hplaces, Set.ncard_coe_finset, List.toFinset_card_of_nodup hnodup, List.length_map]

/-! ### Selection -/

/-- The entries of the eligible records, the newest first. -/
def newestEntries (oldest : Option Moment) (records : List Record) : List Entry :=
  (entries oldest records).mergeSort fun first second => isNotOlder first.reading second.reading

theorem map_reading_newestEntries (oldest : Option Moment) (records : List Record) :
    (newestEntries oldest records).map (·.reading) =
      newestFirst (fresh oldest (contextOf records) records) := by
  unfold newestEntries newestFirst
  rw [← map_reading_entries]
  exact List.map_mergeSort fun _ _ _ _ => rfl

theorem pairwise_newestEntries (oldest : Option Moment) (records : List Record) :
    (newestEntries oldest records).Pairwise Entry.Precedes := by
  have hstable : (newestEntries oldest records).Pairwise fun first second =>
      isNotOlder first.reading second.reading = true ∧
        (isNotOlder second.reading first.reading = true → first.place < second.place) :=
    pairwise_mergeSort_of_pairwise
      (fun first second third => isNotOlder_trans first.reading second.reading third.reading)
      (fun first second => isNotOlder_total first.reading second.reading)
      (pairwise_place_entries oldest records)
  refine hstable.imp fun {first second} hordered => ?_
  have hle : second.reading.instant ≤ first.reading.instant := of_decide_eq_true hordered.1
  rcases Int.lt_or_eq_of_le hle with hless | hsame
  · exact .inl hless
  · exact .inr ⟨hsame, hordered.2 (decide_eq_true (Int.le_of_eq hsame.symm))⟩

theorem length_capped {α : Type} (count : Option Int) (items : List α) :
    (capped count items).length = cappedCount count items.length := by
  cases count with
  | none => rfl
  | some count => exact (List.length_take ..).trans (Nat.min_comm ..)

/-- Items that a cap cuts off come after those that it lets through. -/
theorem rel_of_not_mem_capped {α : Type} {precedes : α → α → Prop} {count : Option Int}
    {items : List α} (hordered : items.Pairwise precedes) {item other : α} (hitem : item ∈ items)
    (hcut : item ∉ capped count items) (hother : other ∈ capped count items) :
    precedes other item := by
  cases count with
  | none => exact absurd hitem hcut
  | some count =>
      simp only [capped] at hcut hother
      rw [← List.take_append_drop count.toNat items] at hordered hitem
      exact (List.pairwise_append.mp hordered).2.2 other hother item
        ((List.mem_append.mp hitem).resolve_left hcut)

theorem areNewest_capped (oldest : Option Moment) (count : Option Int) (records : List Record) :
    AreNewest oldest count records (capped count (newestEntries oldest records)) where
  eligible entry hentry := by
    have hmem := List.mem_mergeSort.mp ((capped_sublist count _).subset hentry)
    exact (mem_entries_iff entry).mp hmem
  ordered := (pairwise_newestEntries oldest records).sublist (capped_sublist count _)
  length := by
    rw [length_capped, ncard_eligiblePlaces, newestEntries, List.length_mergeSort]
  omitted entry heligible hcut other hother :=
    rel_of_not_mem_capped (pairwise_newestEntries oldest records)
      (List.mem_mergeSort.mpr ((mem_entries_iff entry).mpr heligible)) hcut hother

end Reading

namespace Measurement

open Reading (AreNewest AreReadable Entry)

/-- Measurements are made of readable records whose readings are in the calendar, as many as the cap
lets through. -/
theorem exists_ofRecords (tag : Tag) {now : Moment} {limits : Limits} {oldest : Option Moment}
    (hcutoff : Reading.cutoff now limits = .ok oldest) {records : List Record}
    (hreadable : AreReadable oldest records)
    (hdated : ∀ reading ∈ Reading.fresh oldest (Reading.contextOf records) records,
      Time.inCalendar (reading.instant / 1000) = true) :
    ∃ measurements, ofRecords tag now limits none records = .ok measurements ∧
      measurements.length = Reading.cappedCount limits.maxCount
        (Reading.fresh oldest (Reading.contextOf records) records).length := by
  refine ⟨_, (ofRecords_eq_ok_iff_capped hcutoff records _).mpr ⟨hreadable, ?_, rfl⟩, ?_⟩
  · intro reading hreading
    exact hdated reading
      (List.mem_mergeSort.mp ((Reading.capped_sublist limits.maxCount _).subset hreading))
  · rw [List.length_map, Reading.length_capped, Reading.newestFirst, List.length_mergeSort]

/-- Measurements are made of the newest eligible records.  This needs records that are readable, and
those that are kept have to be in the calendar; otherwise no measurements are made. -/
theorem ofRecords_newest (tag : Tag) (now : Moment) (limits : Limits) {oldest : Option Moment}
    (hcutoff : Reading.cutoff now limits = .ok oldest) (records : List Record) :
    ∃ kept : List Entry, AreNewest oldest limits.maxCount records kept ∧
      (AreReadable oldest records →
        (∀ entry ∈ kept, Time.inCalendar (entry.reading.instant / 1000) = true) →
          ofRecords tag now limits none records =
            .ok (kept.map fun entry => ofDated tag entry.reading)) ∧
      (¬(AreReadable oldest records ∧
          ∀ entry ∈ kept, Time.inCalendar (entry.reading.instant / 1000) = true) →
        ∃ failure, ofRecords tag now limits none records = .error failure) := by
  refine ⟨_, Reading.areNewest_capped oldest limits.maxCount records, ?_⟩
  have hreadings : (Reading.capped limits.maxCount (Reading.newestEntries oldest records)).map
      (·.reading) = Reading.capped limits.maxCount
        (Reading.newestFirst (Reading.fresh oldest (Reading.contextOf records) records)) := by
    rw [← Reading.capped_map, Reading.map_reading_newestEntries]
  have hmade (measurements : List Measurement) :
      ofRecords tag now limits none records = .ok measurements ↔ _ :=
    ofRecords_eq_ok_iff_capped hcutoff records measurements
  rw [← hreadings] at hmade
  simp only [List.forall_mem_map, List.map_map] at hmade
  refine ⟨fun hreadable hdated => (hmade _).mpr ⟨hreadable, hdated, rfl⟩, fun hnot => ?_⟩
  cases houtcome : ofRecords tag now limits none records with
  | error failure => exact ⟨failure, rfl⟩
  | ok measurements =>
      obtain ⟨hreadable, hdated, -⟩ := (hmade measurements).mp houtcome
      exact absurd ⟨hreadable, hdated⟩ hnot

/-- One day before ten in the morning. -/
def yesterday : Moment := ⟨morning.wall - 86400000000, some 0⟩

/-- Two records of nine o'clock, one that is no reading, and one of ten o'clock. -/
def tied : List Record :=
  [atNine, ⟨.text "yesterday", .float 4⟩, ⟨.text "2025-06-01T11:00:00+02:00", .text "3"⟩, atTen]

theorem areReadable_tied {oldest : Option Moment}
    (haware : ∀ limit ∈ oldest, limit.isNaive = false) : AreReadable oldest tied := by
  have hfirst : atNine ∈ tied := List.mem_cons_self
  refine Reading.areReadable_of_aware ?_ haware hfirst nofun
  simp only [tied, List.forall_mem_cons]
  exact ⟨nofun, nofun, nofun, nofun, nofun⟩

theorem ofRecords_newest_tied :
    Reading.cutoff morning ⟨some 2, some (.whole 1)⟩ = .ok (some yesterday) ∧
      AreReadable (some yesterday) tied ∧
      ∃ kept : List Entry, AreNewest (some yesterday) (some 2) tied kept ∧ kept.length = 2 ∧
        ofRecords dustTag morning ⟨some 2, some (.whole 1)⟩ none tied =
          .ok (kept.map fun entry => ofDated dustTag entry.reading) := by
  have hreadable : AreReadable (some yesterday) tied := areReadable_tied (by rintro - ⟨⟩; rfl)
  have hcutoff : Reading.cutoff morning ⟨some 2, some (.whole 1)⟩ = .ok (some yesterday) := rfl
  obtain ⟨kept, hnewest, hmade, -⟩ := ofRecords_newest dustTag morning _ hcutoff tied
  have hdated : (Reading.entries (some yesterday) tied).all (fun entry =>
      Time.inCalendar (entry.reading.instant / 1000)) = true := by decide +kernel
  refine ⟨rfl, hreadable, kept, hnewest, ?_, hmade hreadable fun entry hentry => ?_⟩
  · rw [hnewest.length, Reading.ncard_eligiblePlaces]
    decide +kernel
  · exact List.all_eq_true.mp hdated entry
      ((Reading.mem_entries_iff entry).mpr (hnewest.eligible entry hentry))

/-- A value too large for a binary64 number costs an eligible record its measurement, and a flag as
the only timestamp makes an age limit fail. -/
theorem ofRecords_newest_refused :
    ((∃ reading, Reading.IsEligible none [atTen, overflowing] ⟨0, reading⟩ ∧
        Time.inCalendar (reading.instant / 1000) = true) ∧
      (ofRecords dustTag morning ⟨none, none⟩ none [atTen, overflowing]).isOk = false) ∧
    (Reading.cutoff morning ⟨none, some (.whole 1)⟩ = .ok (some yesterday) ∧
      AreNewest (some yesterday) none [flagged] [] ∧
      (ofRecords dustTag morning ⟨none, some (.whole 1)⟩ none [flagged]).isOk = false) := by
  have hdated : (Reading.entries none [atTen, overflowing]).map (fun entry =>
      (entry.place, Time.inCalendar (entry.reading.instant / 1000))) = [(0, true)] := by
    decide +kernel
  have hnone : (Reading.entries (some yesterday) [flagged]).isEmpty = true := by decide +kernel
  refine ⟨⟨?_, by decide +kernel⟩, rfl, ?_, by decide +kernel⟩
  · obtain ⟨⟨place, reading⟩, hentries, hentry⟩ := List.map_eq_singleton_iff.mp hdated
    obtain ⟨rfl, hcalendar⟩ := Prod.mk.inj hentry
    have heligible := (Reading.mem_entries_iff _).mp (hentries ▸ List.mem_singleton_self _)
    exact ⟨reading, heligible, hcalendar⟩
  · have hnewest := Reading.areNewest_capped (some yesterday) none [flagged]
    rwa [Reading.newestEntries, List.isEmpty_iff.mp hnone, List.mergeSort_nil,
      Reading.capped_nil] at hnewest

end Measurement

end AirQuality
