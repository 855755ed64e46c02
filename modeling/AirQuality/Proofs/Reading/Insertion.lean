import Mathlib.Algebra.Group.Int.Defs
import Mathlib.Data.List.Basic
import AirQuality.Proofs.Measurement
import AirQuality.Proofs.Reading.Context

/-!
# One record more

A record that is put among others has at most a reading of its own, and costs none of the others
theirs, unless it is harmful: it may make the selection fail, or change what the columns are as a
whole, so that other timestamps stand for something else or are missing.
-/

namespace AirQuality

open Decimal (oneZero)
open Outcome
open Time (Moment)

/-- An instant that is near is there beside fine ones, too. -/
theorem Column.instantOf_of_near {stamp : Option Time.Stamp} (fine : Bool)
    (hnear : ∀ found ∈ stamp, isNear found.nanos = true) :
    instantOf fine stamp = stamp.map (·.nanos) := by
  cases stamp with
  | none => rfl
  | some found =>
      simp only [instantOf, Option.map_some]
      rw [Option.filter_some, if_pos]
      rw [hnear found rfl, Bool.or_true]

/-- A cell stands for the same in columns that are both of numbers, or both not, or if it stands for
the same in either. -/
theorem Column.stampIn_eq {isNumber other : Bool} {cell : Json}
    (halike : isNumber = other ∨ stampIn true cell = stampIn false cell) :
    stampIn isNumber cell = stampIn other cell := by
  rcases halike with rfl | halike
  · rfl
  · have hboth : ∀ areNumbers, stampIn areNumbers cell = stampIn false cell := by
      intro areNumbers
      cases areNumbers with
      | true => exact halike
      | false => rfl
    exact (hboth isNumber).trans (hboth other).symm

namespace Reading

/-! ### Sorting -/

/-- The order in which the newest readings come first. -/
def isNotOlder (first second : Reading) : Bool := second.instant ≤ first.instant

theorem isNotOlder_trans (first second third : Reading) (hfirst : isNotOlder first second = true)
    (hsecond : isNotOlder second third = true) : isNotOlder first third = true := by
  simp only [isNotOlder, decide_eq_true_eq] at hfirst hsecond ⊢
  omega

theorem isNotOlder_total (first second : Reading) :
    (isNotOlder first second || isNotOlder second first) = true := by
  simp only [isNotOlder, Bool.or_eq_true, decide_eq_true_eq]
  omega

/-- The readings that are newer than one, among others. -/
def newerOf (reading : Reading) (others : List Reading) : List Reading :=
  others.filter fun other => reading.instant < other.instant

/-- The readings that are not newer than one, among others. -/
def restOf (reading : Reading) (others : List Reading) : List Reading :=
  others.filter fun other => other.instant ≤ reading.instant

/-- A reading in front of others comes after the newer ones and before the rest. -/
theorem newestFirst_cons (reading : Reading) (others : List Reading) :
    newestFirst others =
        newerOf reading (newestFirst others) ++ restOf reading (newestFirst others) ∧
      newestFirst (reading :: others) =
        newerOf reading (newestFirst others) ++ reading :: restOf reading (newestFirst others) := by
  obtain ⟨newer, rest, hall, hothers, hnewer⟩ :=
    List.mergeSort_cons isNotOlder_trans isNotOlder_total reading others
  have hsorted := List.pairwise_mergeSort isNotOlder_trans isNotOlder_total (reading :: others)
  rw [hall, List.pairwise_append] at hsorted
  have hlate : ∀ other ∈ newer, reading.instant < other.instant := by
    intro other hother
    have hnot := hnewer other hother
    simp only [isNotOlder, Bool.not_eq_true', decide_eq_false_iff_not] at hnot
    omega
  have hearly : ∀ other ∈ rest, other.instant ≤ reading.instant := fun other hother =>
    of_decide_eq_true ((List.pairwise_cons.mp hsorted.2.1).1 other hother)
  have hfirst : newerOf reading (newer ++ rest) = newer := by
    unfold newerOf
    rw [List.filter_append, List.filter_eq_self.mpr fun other hother =>
      decide_eq_true (hlate other hother), List.filter_eq_nil_iff.mpr fun other hother =>
        Int.not_lt.mpr (hearly other hother) ∘ of_decide_eq_true, List.append_nil]
  have hsecond : restOf reading (newer ++ rest) = rest := by
    unfold restOf
    rw [List.filter_append, List.filter_eq_nil_iff.mpr fun other hother =>
      Int.not_le.mpr (hlate other hother) ∘ of_decide_eq_true, List.filter_eq_self.mpr
        fun other hother => decide_eq_true (hearly other hother), List.nil_append]
  change others.mergeSort isNotOlder = _ ∧ (reading :: others).mergeSort isNotOlder = _
  have hsplit : newestFirst others = newer ++ rest := hothers
  rw [hsplit, hfirst, hsecond]
  exact ⟨hothers, hall⟩

/-- To put a reading among others moves none of these. -/
theorem exists_newestFirst_insert (first second : List Reading) (reading : Reading) :
    ∃ earlier later, newestFirst (first ++ second) = earlier ++ later ∧
      newestFirst (first ++ reading :: second) = earlier ++ reading :: later := by
  induction first with
  | nil => exact ⟨_, _, newestFirst_cons reading second⟩
  | cons front rest ih =>
      obtain ⟨earlier, later, hothers, hall⟩ := ih
      rw [List.cons_append, List.cons_append, (newestFirst_cons front _).2,
        (newestFirst_cons front _).2, hothers, hall]
      simp only [newerOf, restOf, List.filter_append, List.filter_cons]
      by_cases hnewer : front.instant < reading.instant
      · have hnot : ¬reading.instant ≤ front.instant := by omega
        simp only [hnewer, hnot, decide_true, decide_false, if_true, Bool.false_eq_true, if_false]
        exact ⟨newerOf front earlier, _, List.append_assoc _ _ _, List.append_assoc _ _ _⟩
      · have hle : reading.instant ≤ front.instant := by omega
        simp only [hnewer, hle, decide_true, decide_false, if_true, Bool.false_eq_true, if_false]
        refine ⟨newerOf front earlier ++ newerOf front later ++ front :: restOf front earlier,
          restOf front later, ?_, ?_⟩
        · rw [List.append_assoc _ (front :: _)]
          rfl
        · rw [List.append_assoc _ (front :: _)]
          rfl

/-! ### Contexts -/

/-- The reading that a record has among others, if an age limit lets it through. -/
def ownReading (oldest : Option Moment) (before after : List Record) (record : Record) :
    Option Reading :=
  (ofRecord? (contextOf (before ++ record :: after)) record).filter (isNewer oldest)

/-- A record that may be put between others without harm to them: its value can be told, its
timestamp can be compared with a cutoff as theirs can, and its own reading is in the calendar; it
does not make their timestamps a column of numbers, nor the other way, unless they stand for the
same in both; and it does not bring in a fine timestamp where one of theirs is far away. -/
structure IsHarmless (oldest : Option Moment) (before after : List Record) (record : Record) :
    Prop where
  value : Column.IsReadable record.value
  clock : ∀ limit ∈ oldest, before ++ after = [] ∨ limit.isNaive = true →
    (limit.isNaive = true ↔ ∃ flag, record.timestamp = .bool flag)
  year : ∀ reading ∈ ownReading oldest before after record,
    Time.inCalendar (reading.instant / 1000) = true
  kind : (contextOf (before ++ record :: after)).areNumbers =
      (contextOf (before ++ after)).areNumbers ∨
    ∀ other ∈ before ++ after,
      Column.stampIn true other.timestamp = Column.stampIn false other.timestamp
  fineness : ∀ stamp ∈ Column.stampIn (contextOf (before ++ record :: after)).areNumbers
      record.timestamp, stamp.isFine = true → (contextOf (before ++ after)).isFine = true ∨
    ∀ other ∈ before ++ after,
      ∀ stamp ∈ Column.stampIn (contextOf (before ++ after)).areNumbers other.timestamp,
        Column.isNear stamp.nanos = true

variable {oldest : Option Moment} {before after : List Record} {record other : Record}

/-- Among the records are the one that was put in and the others. -/
theorem mem_insert_iff :
    other ∈ before ++ record :: after ↔ other = record ∨ other ∈ before ++ after :=
  List.perm_middle.mem_iff.trans List.mem_cons

theorem AreReadable.insert (hreadable : AreReadable oldest (before ++ after))
    (hharmless : IsHarmless oldest before after record) :
    AreReadable oldest (before ++ record :: after) where
  values other hother := by
    rcases mem_insert_iff.mp hother with rfl | hother
    · exact hharmless.value
    · exact hreadable.values other hother
  timestamps _ limit hlimit := by
    have hown := hharmless.clock limit hlimit
    by_cases hnone : before ++ after = []
    · rw [hown (.inl hnone)]
      constructor
      · rintro hflag other hother
        rcases mem_insert_iff.mp hother with rfl | hother
        · exact hflag
        · rw [hnone] at hother
          cases hother
      · exact fun hall => hall record (mem_insert_iff.mpr (.inl rfl))
    · have hothers := hreadable.timestamps hnone limit hlimit
      constructor
      · intro hnaive other hother
        rcases mem_insert_iff.mp hother with rfl | hother
        · exact (hown (.inr hnaive)).mp hnaive
        · exact hothers.mp hnaive other hother
      · exact fun hall => hothers.mpr fun other hother =>
          hall other (mem_insert_iff.mpr (.inr hother))

/-- The timestamps of the others stand for the same. -/
theorem IsHarmless.stampIn_eq (hharmless : IsHarmless oldest before after record)
    (hother : other ∈ before ++ after) :
    Column.stampIn (contextOf (before ++ record :: after)).areNumbers other.timestamp =
      Column.stampIn (contextOf (before ++ after)).areNumbers other.timestamp :=
  Column.stampIn_eq (hharmless.kind.imp_right fun halike => halike other hother)

theorem isFine_contextOf_iff (records : List Record) :
    (contextOf records).isFine = true ↔ ∃ record ∈ records,
      ∃ stamp ∈ Column.stampIn (contextOf records).areNumbers record.timestamp,
        stamp.isFine = true := by
  simp only [contextOf, Column.instantsOfStamps, List.any_map, List.any_eq_true,
    Function.comp_apply, Option.any_eq_true]
  exact Iff.rfl

/-- The others have the instants that they have without the record. -/
theorem IsHarmless.instantOf_eq (hharmless : IsHarmless oldest before after record)
    (hother : other ∈ before ++ after) :
    Column.instantOf (contextOf (before ++ record :: after)).isFine
        (Column.stampIn (contextOf (before ++ record :: after)).areNumbers other.timestamp) =
      Column.instantOf (contextOf (before ++ after)).isFine
        (Column.stampIn (contextOf (before ++ after)).areNumbers other.timestamp) := by
  rw [hharmless.stampIn_eq hother]
  by_cases hold : (contextOf (before ++ after)).isFine = true
  · have hnew : (contextOf (before ++ record :: after)).isFine = true := by
      obtain ⟨fine, hmem, stamp, hstamp, hisFine⟩ := (isFine_contextOf_iff _).mp hold
      rw [← hharmless.stampIn_eq hmem] at hstamp
      exact (isFine_contextOf_iff _).mpr
        ⟨fine, mem_insert_iff.mpr (.inr hmem), stamp, hstamp, hisFine⟩
    rw [hold, hnew]
  · by_cases hnew : (contextOf (before ++ record :: after)).isFine = true
    · -- Only the record itself can be fine, so that the others have to be near.
      obtain ⟨fine, hmem, stamp, hstamp, hisFine⟩ := (isFine_contextOf_iff _).mp hnew
      rcases mem_insert_iff.mp hmem with rfl | hmem
      · have hnear := (hharmless.fineness stamp hstamp hisFine).resolve_left hold other hother
        rw [Column.instantOf_of_near _ hnear, Column.instantOf_of_near _ hnear]
      · rw [hharmless.stampIn_eq hmem] at hstamp
        exact absurd ((isFine_contextOf_iff _).mpr ⟨fine, hmem, stamp, hstamp, hisFine⟩) hold
    · rw [Bool.eq_false_iff.mpr hold, Bool.eq_false_iff.mpr hnew]

/-! ### Readings -/

/-- A number may lose the sign of its zero, and is finite as before. -/
theorem ofCells?_map_withOneZero (instant : Option Int) (number : Float) :
    (ofCells? instant number).map withOneZero = ofCells? instant (oneZero number) := by
  cases instant with
  | none => rfl
  | some instant =>
      simp only [ofCells?, Decimal.isFinite_oneZero]
      split
      · rfl
      · rfl

/-- A record has the reading that it has among others, up to the sign of a zero, if its instant is
the one that it has there. -/
theorem ofRecord?_map_settleZero {context : Context} {others : List Record}
    (hinstant : Column.instantOf context.isFine
        (Column.stampIn context.areNumbers record.timestamp) =
      Column.instantOf (contextOf others).isFine
        (Column.stampIn (contextOf others).areNumbers record.timestamp))
    (hwhole : context.areWhole = true → (contextOf others).areWhole = true) :
    (ofRecord? context record).map (settleZero others) = ofRecord? (contextOf others) record := by
  unfold ofRecord?
  dsimp only
  rw [hinstant]
  by_cases hold : (contextOf others).areWhole = true
  · have hsettle : settleZero others = withOneZero := funext fun _ => if_pos hold
    rw [hsettle, if_pos hold, ofCells?_map_withOneZero]
    split
    · rw [Decimal.oneZero_oneZero]
    · rfl
  · have hsettle : settleZero others = id := funext fun _ => if_neg hold
    rw [hsettle, Option.map_id_apply, if_neg hold, if_neg (mt hwhole hold)]

/-- The others have the readings that they have without the record, up to the sign of a zero. -/
theorem IsHarmless.ofRecord?_eq (hharmless : IsHarmless oldest before after record)
    (hother : other ∈ before ++ after) :
    (ofRecord? (contextOf (before ++ record :: after)) other).map (settleZero (before ++ after)) =
      ofRecord? (contextOf (before ++ after)) other := by
  refine ofRecord?_map_settleZero (hharmless.instantOf_eq hother)
    (Column.areWhole_of_subset fun cell hcell => ?_)
  obtain ⟨found, hfound, rfl⟩ := List.mem_map.mp hcell
  exact List.mem_map_of_mem (mem_insert_iff.mpr (.inr hfound))

theorem isNewer_settleZero (records : List Record) (reading : Reading) :
    isNewer oldest (settleZero records reading) = isNewer oldest reading := by
  unfold settleZero
  split
  · exact isNewer_withOneZero reading
  · rfl

theorem fresh_append (context : Context) (first second : List Record) :
    fresh oldest context (first ++ second) =
      fresh oldest context first ++ fresh oldest context second := by
  unfold fresh
  rw [List.filterMap_append, List.filter_append]

theorem fresh_singleton (context : Context) (record : Record) :
    fresh oldest context [record] =
      ((ofRecord? context record).filter (isNewer oldest)).toList := by
  unfold fresh
  rw [List.filterMap_cons]
  cases ofRecord? context record with
  | none => rfl
  | some reading =>
      rw [Option.filter_some, List.filterMap_nil, List.filter_cons, List.filter_nil]
      split
      · rfl
      · rfl

theorem fresh_insert (context : Context) (before after : List Record) (record : Record) :
    fresh oldest context (before ++ record :: after) =
      fresh oldest context before ++ (((ofRecord? context record).filter (isNewer oldest)).toList ++
        fresh oldest context after) := by
  rw [← List.singleton_append, fresh_append, fresh_append, fresh_singleton]

/-- Records have the fresh readings that they have among others, if each has its reading there. -/
theorem fresh_map_settleZero {context : Context} {others part : List Record}
    (hread : ∀ other ∈ part,
      (ofRecord? context other).map (settleZero others) = ofRecord? (contextOf others) other) :
    (fresh oldest context part).map (settleZero others) = fresh oldest (contextOf others) part := by
  unfold fresh
  have hnewer : isNewer oldest ∘ settleZero others = isNewer oldest :=
    funext (isNewer_settleZero others)
  rw [← hnewer, ← List.filter_map, List.map_filterMap, hnewer]
  congr 1
  exact List.filterMap_congr hread

/-- A part of the others has the readings that it has without the record. -/
theorem IsHarmless.fresh_eq (hharmless : IsHarmless oldest before after record)
    {part : List Record} (hpart : ∀ other ∈ part, other ∈ before ++ after) :
    (fresh oldest (contextOf (before ++ record :: after)) part).map (settleZero (before ++ after)) =
      fresh oldest (contextOf (before ++ after)) part :=
  fresh_map_settleZero fun other hother => hharmless.ofRecord?_eq (hpart other hother)

/-- The readings among the records are those of the others and the one of the record. -/
theorem IsHarmless.fresh_insert_eq (hharmless : IsHarmless oldest before after record) :
    (fresh oldest (contextOf (before ++ record :: after)) (before ++ record :: after)).map
        (settleZero (before ++ after)) =
      fresh oldest (contextOf (before ++ after)) before ++
        ((ownReading oldest before after record).map (settleZero (before ++ after))).toList ++
          fresh oldest (contextOf (before ++ after)) after := by
  rw [fresh_insert, List.map_append, List.map_append,
    hharmless.fresh_eq fun _ => List.mem_append_left after,
    hharmless.fresh_eq fun _ => List.mem_append_right before, ← Option.toList_map,
    List.append_assoc]
  rfl

theorem instant_settleZero (records : List Record) (reading : Reading) :
    (settleZero records reading).instant = reading.instant := by
  unfold settleZero
  split
  · rfl
  · rfl

/-- To take the sign off zeros does not change the order of readings. -/
theorem newestFirst_map_settleZero (records : List Record) (readings : List Reading) :
    (newestFirst readings).map (settleZero records) =
      newestFirst (readings.map (settleZero records)) := by
  apply List.map_mergeSort
  intro first _ second _
  rw [instant_settleZero, instant_settleZero]

/-- The selection among the records is that among the others with at most one reading more. -/
theorem IsHarmless.exists_insert (hharmless : IsHarmless oldest before after record) :
    ∃ earlier later,
      newestFirst (fresh oldest (contextOf (before ++ after)) (before ++ after)) =
          earlier ++ later ∧
        (newestFirst (fresh oldest (contextOf (before ++ record :: after))
            (before ++ record :: after))).map (settleZero (before ++ after)) =
          earlier ++ ((ownReading oldest before after record).map
            (settleZero (before ++ after))).toList ++ later := by
  rw [newestFirst_map_settleZero, hharmless.fresh_insert_eq, fresh_append]
  cases (ownReading oldest before after record).map (settleZero (before ++ after)) with
  | none =>
      rw [Option.toList_none, List.append_nil]
      exact ⟨[], _, rfl, rfl⟩
  | some reading =>
      obtain ⟨earlier, later, hothers, hall⟩ := exists_newestFirst_insert
        (fresh oldest (contextOf (before ++ after)) before)
        (fresh oldest (contextOf (before ++ after)) after) reading
      refine ⟨earlier, later, hothers, ?_⟩
      rw [Option.toList_some, List.append_assoc, List.singleton_append, hall, List.append_assoc]
      rfl

end Reading

/-! ### Measurements -/

namespace Measurement

variable {tag : Tag} {now : Moment} {days : Option Decimal.Number} {oldest : Option Moment}

/-- The measurement of a reading in the calendar. -/
def ofDated (tag : Tag) (reading : Reading) : Measurement :=
  ⟨.float reading.value, Moment.atUtc (reading.instant / 1000), tag.stationId, tag.parameterKey,
    tag.source⟩

theorem ofReading_eq_ok_iff (reading : Reading) (measurement : Measurement) :
    ofReading tag reading = .ok measurement ↔
      Time.inCalendar (reading.instant / 1000) = true ∧ measurement = ofDated tag reading := by
  unfold ofReading Reading.moment
  dsimp only
  split
  case isTrue hdated =>
    constructor
    · exact fun hmade => ⟨hdated, (Except.ok.inj hmade).symm⟩
    · rintro ⟨-, rfl⟩
      rfl
  case isFalse hundated => exact ⟨nofun, fun hmade => absurd hmade.1 hundated⟩

/-- Measurements are made of the readings of the records one by one, newest first and up to the
cap, if the records are readable and those readings are in the calendar. -/
theorem ofRecords_eq_ok_iff_capped {limits : Limits}
    (hcutoff : Reading.cutoff now limits = .ok oldest) (records : List Record)
    (measurements : List Measurement) :
    ofRecords tag now limits none records = .ok measurements ↔
      Reading.AreReadable oldest records ∧
        (∀ reading ∈ Reading.capped limits.maxCount
            (Reading.newestFirst (Reading.fresh oldest (Reading.contextOf records) records)),
          Time.inCalendar (reading.instant / 1000) = true) ∧
        measurements = (Reading.capped limits.maxCount (Reading.newestFirst
          (Reading.fresh oldest (Reading.contextOf records) records))).map (ofDated tag) := by
  rw [← mapM_eq_ok_iff fun reading _ measurement => ofReading_eq_ok_iff reading measurement]
  constructor
  · intro hmade
    obtain ⟨readings, hselect, hread⟩ := bind_eq_ok hmade
    obtain ⟨hreadable, rfl⟩ := (Reading.select_eq_ok_iff hcutoff readings).mp hselect
    exact ⟨hreadable, hread⟩
  · rintro ⟨hreadable, hread⟩
    rw [ofRecords, (Reading.select_eq_ok_iff hcutoff _).mpr ⟨hreadable, rfl⟩]
    exact hread

/-- Without a cap all readings of the records count. -/
theorem ofRecords_eq_ok_iff (hcutoff : Reading.cutoff now ⟨none, days⟩ = .ok oldest)
    (records : List Record) (measurements : List Measurement) :
    ofRecords tag now ⟨none, days⟩ none records = .ok measurements ↔
      Reading.AreReadable oldest records ∧
        (∀ reading ∈ Reading.newestFirst
            (Reading.fresh oldest (Reading.contextOf records) records),
          Time.inCalendar (reading.instant / 1000) = true) ∧
        measurements = (Reading.newestFirst
          (Reading.fresh oldest (Reading.contextOf records) records)).map (ofDated tag) :=
  ofRecords_eq_ok_iff_capped hcutoff records measurements

theorem ofDated_settleZero (records : List Record) (reading : Reading) :
    ofDated tag (Reading.settleZero records reading) =
      settleZero records (ofDated tag reading) := by
  unfold Reading.settleZero settleZero
  split
  · rfl
  · rfl

/-- A harmless record between others adds at most the measurement of its own reading, and the others
keep theirs, up to the sign of a zero that all values being whole takes off. -/
theorem ofRecords_insert (tag : Tag) (now : Moment) (days : Option Decimal.Number)
    (hcutoff : Reading.cutoff now ⟨none, days⟩ = .ok oldest) (before after : List Record)
    (record : Record) {measurements : List Measurement}
    (hmade : ofRecords tag now ⟨none, days⟩ none (before ++ after) = .ok measurements)
    (hharmless : Reading.IsHarmless oldest before after record) :
    ∃ (all earlier later : List Measurement) (own : Option Measurement),
      ofRecords tag now ⟨none, days⟩ none (before ++ record :: after) = .ok all ∧
        measurements = earlier ++ later ∧
        all.map (settleZero (before ++ after)) = earlier ++ own.toList ++ later ∧
        own = (Reading.ownReading oldest before after record).map fun reading =>
          settleZero (before ++ after) (ofDated tag reading) := by
  obtain ⟨hreadable, hdated, rfl⟩ := (ofRecords_eq_ok_iff hcutoff _ _).mp hmade
  obtain ⟨earlier, later, hothers, hall⟩ := hharmless.exists_insert
  refine ⟨_, earlier.map (ofDated tag), later.map (ofDated tag), _,
    (ofRecords_eq_ok_iff hcutoff _ _).mpr ⟨hreadable.insert hharmless, ?_, rfl⟩, ?_, ?_, rfl⟩
  · intro reading hreading
    rw [hothers] at hdated
    rw [← Reading.instant_settleZero (before ++ after) reading]
    have hsettled := List.mem_map_of_mem (f := Reading.settleZero (before ++ after)) hreading
    rw [hall, List.append_assoc] at hsettled
    rcases List.mem_append.mp hsettled with hearlier | hsettled
    · exact hdated _ (List.mem_append_left _ hearlier)
    · rcases List.mem_append.mp hsettled with hown | hlater
      · obtain ⟨own, hown, hsame⟩ := Option.map_eq_some_iff.mp (Option.mem_toList.mp hown)
        rw [← hsame, Reading.instant_settleZero]
        exact hharmless.year own hown
      · exact hdated _ (List.mem_append_right _ hlater)
  · rw [hothers, List.map_append]
  · have hcommute : settleZero (before ++ after) ∘ ofDated tag =
        ofDated tag ∘ Reading.settleZero (before ++ after) :=
      funext fun reading => (ofDated_settleZero (before ++ after) reading).symm
    rw [List.map_map, hcommute, ← List.map_map, hall, List.map_append, List.map_append,
      ← Option.toList_map, Option.map_map, ← hcommute]
    rfl

/-! ### Records that are put in -/

def dustTag : Tag := ⟨"s1", "PM10", "GIOS"⟩

/-- Ten in the morning on 1 June 2025. -/
def morning : Moment := ⟨1748772000000000, some 0⟩

/-- When the measurements were taken that are made of records, if any are made. -/
def takenAt (days : Option Decimal.Number) (records : List Record) : Option (List Int) :=
  (ofRecords dustTag morning ⟨none, days⟩ none records).toOption.map
    (List.map (·.timestamp.wall))

def atTen : Record := ⟨.text "2025-06-01T10:00:00Z", .float 1⟩

def atNine : Record := ⟨.text "2025-06-01T09:00:00Z", .float 2⟩

theorem exists_ofRecords_atTen :
    ∃ measurements, ofRecords dustTag morning ⟨none, none⟩ none [atTen] = .ok measurements := by
  have hsome : (ofRecords dustTag morning ⟨none, none⟩ none [atTen]).toOption.isSome = true := by
    decide +kernel
  cases hmade : ofRecords dustTag morning ⟨none, none⟩ none [atTen] with
  | ok measurements => exact ⟨measurements, rfl⟩
  | error failure =>
      rw [hmade] at hsome
      cases hsome

theorem isHarmless_atNine : Reading.IsHarmless none [atTen] [] atNine where
  value := nofun
  clock := nofun
  year := by
    have hdated : (Reading.ownReading none [atTen] [] atNine).all
        (fun reading => Time.inCalendar (reading.instant / 1000)) = true := by decide +kernel
    exact fun reading hreading => Option.all_eq_true _ _ |>.mp hdated reading hreading
  kind := .inl rfl
  fineness := by
    have hplain : (Column.stampIn (Reading.contextOf ([atTen] ++ [atNine])).areNumbers
        atNine.timestamp).all (fun stamp => !stamp.isFine) = true := by decide +kernel
    intro stamp hstamp hfine
    have hcoarse := Option.all_eq_true _ _ |>.mp hplain stamp hstamp
    rw [hfine] at hcoarse
    cases hcoarse

theorem ofRecords_insert_atNine :
    ∃ measurements, ofRecords dustTag morning ⟨none, none⟩ none ([atTen] ++ []) = .ok measurements ∧
      Reading.IsHarmless none [atTen] [] atNine ∧
      ∃ (all earlier later : List Measurement) (own : Option Measurement),
        ofRecords dustTag morning ⟨none, none⟩ none ([atTen] ++ [atNine]) = .ok all ∧
          measurements = earlier ++ later ∧
          all.map (settleZero [atTen]) = earlier ++ own.toList ++ later ∧ own.isSome = true := by
  obtain ⟨measurements, hmade⟩ := exists_ofRecords_atTen
  obtain ⟨all, earlier, later, own, hall, hothers, hsettled, hown⟩ :=
    ofRecords_insert dustTag morning none rfl [atTen] [] atNine hmade isHarmless_atNine
  refine ⟨measurements, hmade, isHarmless_atNine, all, earlier, later, own, hall, hothers,
    hsettled, ?_⟩
  rw [hown, Option.isSome_map]
  decide +kernel

/-- A text for a moment that is in the year 10000 on UTC. -/
def afterCalendar : Record := ⟨.text "9999-12-31T23:59:59-10:00", .float 2⟩

/-- A value too large for a binary64 number. -/
def overflowing : Record := ⟨.text "2025-06-01T10:00:00Z", .int (10 ^ 400)⟩

def flagged : Record := ⟨.bool true, .float 2⟩

/-- A year in a column of numbers. -/
def byNumber : Record := ⟨.float 2025, .float 1⟩

def byWord : Record := ⟨.text "yesterday", .float 2⟩

def farAway : Record := ⟨.text "1500-01-01T00:00:00Z", .float 1⟩

/-- A timestamp with seven digits of a fraction. -/
def sharp : Record := ⟨.text "2025-06-01T10:00:00.1234567Z", .float 2⟩

theorem takenAt_afterCalendar : takenAt none [atTen, afterCalendar] = none := by
  have hbeyond : (Reading.ofRecord? (Reading.contextOf [atTen, afterCalendar]) afterCalendar).any
      (fun reading => !Time.inCalendar (reading.instant / 1000)) = true := by decide +kernel
  obtain ⟨reading, hreading, hbeyond⟩ := (Option.any_eq_true _ _).mp hbeyond
  unfold takenAt
  cases hmade : ofRecords dustTag morning ⟨none, none⟩ none [atTen, afterCalendar] with
  | error failure => rfl
  | ok measurements =>
      obtain ⟨-, hdated, -⟩ := (ofRecords_eq_ok_iff rfl _ _).mp hmade
      have hmem : reading ∈ Reading.fresh none (Reading.contextOf [atTen, afterCalendar])
          [atTen, afterCalendar] :=
        List.mem_filter.mpr ⟨List.mem_filterMap.mpr ⟨_, by simp, hreading⟩, rfl⟩
      rw [hdated reading (List.mem_mergeSort.mpr hmem)] at hbeyond
      cases hbeyond

/-- Each kind of harm that a record can do: it makes others fail with it, or costs them their
readings. -/
theorem ofRecords_insert_harmful :
    (takenAt none [atTen] = some [1748772000000000] ∧
      takenAt none [atTen, afterCalendar] = none ∧ takenAt none [atTen, overflowing] = none) ∧
    (takenAt (some (.whole 1)) [] = some [] ∧ takenAt (some (.whole 1)) [flagged] = none) ∧
    (takenAt none [byNumber] = some [1735689600000000] ∧
      takenAt none [byNumber, byWord] = some []) ∧
    (takenAt none [farAway] = some [-14831769600000000] ∧
      takenAt none [farAway, sharp] = some [1748772000123456]) := by
  refine ⟨⟨?_, takenAt_afterCalendar, ?_⟩, ⟨?_, ?_⟩, ⟨?_, ?_⟩, ?_, ?_⟩
  all_goals decide +kernel

end Measurement

end AirQuality
