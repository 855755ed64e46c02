import AirQuality.Proofs.Reading.Context
import AirQuality.Table.Transform

/-!
# Readings in tables

The rules by which readings are selected can be told in two ways: as a transform of the table of
all raw records, and as the selection of the readings among them.  The rows that the transform
leaves are those of the readings that are selected, in the same order, and it fails as the
selection does.
-/

namespace AirQuality

open Outcome
open Time (Moment)

namespace Table

/-! ### Tables of two columns -/

/-- The two cells of a row. -/
structure Pair where
  label : Nat
  time : Cell
  value : Cell

namespace Pair

def row (pair : Pair) : Row := ⟨pair.label, [pair.time, pair.value]⟩

def setTime (pair : Pair) (cell : Cell) : Pair := { pair with time := cell }

def setValue (pair : Pair) (cell : Cell) : Pair := { pair with value := cell }

/-- The row of a reading. -/
def ofReading (entry : Nat × Reading) : Pair :=
  ⟨entry.1, .instant (some entry.2.instant), .datum (.float entry.2.value)⟩

end Pair

/-- A table with a column of times and one of values. -/
def ofPairs (timeKind valueKind : Column.Kind) (pairs : List Pair) : Table where
  fields := [("timestamp", timeKind), ("value", valueKind)]
  rows := pairs.map Pair.row

variable {timeKind valueKind : Column.Kind} {pairs : List Pair}

theorem places_timestamp : (ofPairs timeKind valueKind pairs).places "timestamp" = [0] := by
  simp [places, names, ofPairs]

theorem places_value : (ofPairs timeKind valueKind pairs).places "value" = [1] := by
  simp [places, names, ofPairs]

theorem cellsAt_zero : (ofPairs timeKind valueKind pairs).cellsAt 0 = pairs.map Pair.time := by
  simp [cellsAt, ofPairs, Pair.row]

theorem cellsAt_one : (ofPairs timeKind valueKind pairs).cellsAt 1 = pairs.map Pair.value := by
  simp [cellsAt, ofPairs, Pair.row]

theorem setColumn_zero (kind : Column.Kind) (cells : List Cell) :
    (ofPairs timeKind valueKind pairs).setColumn 0 kind cells =
      ofPairs kind valueKind (List.zipWith Pair.setTime pairs cells) := by
  simp only [setColumn, ofPairs, List.zipWith_map_left, List.map_zipWith]
  rfl

theorem setColumn_one (kind : Column.Kind) (cells : List Cell) :
    (ofPairs timeKind valueKind pairs).setColumn 1 kind cells =
      ofPairs timeKind kind (List.zipWith Pair.setValue pairs cells) := by
  simp only [setColumn, ofPairs, List.zipWith_map_left, List.map_zipWith]
  rfl

theorem keep_zero (test : Cell → Bool) :
    (ofPairs timeKind valueKind pairs).keep 0 test =
      ofPairs timeKind valueKind (pairs.filter fun pair => test pair.time) := by
  simp only [keep, ofPairs, List.filter_map]
  rfl

theorem keep_one (test : Cell → Bool) :
    (ofPairs timeKind valueKind pairs).keep 1 test =
      ofPairs timeKind valueKind (pairs.filter fun pair => test pair.value) := by
  simp only [keep, ofPairs, List.filter_map]
  rfl

theorem keepFlagged_map (timeKind valueKind : Column.Kind) (pairs : List Pair)
    (test : Pair → Bool) :
    (ofPairs timeKind valueKind pairs).keepFlagged (pairs.map test) =
      ofPairs timeKind valueKind (pairs.filter test) := by
  simp only [keepFlagged, ofPairs, List.zip_map', List.filter_map, List.map_map]
  rfl

/-! ### Steps -/

theorem selectColumns_ofPairs :
    selectColumns ["timestamp", "value"] (ofPairs timeKind valueKind pairs) =
      .ok (ofPairs timeKind valueKind pairs) := by
  simp only [selectColumns, List.flatMap_cons, List.flatMap_nil, places_timestamp, places_value]
  simp [project, ofPairs, Pair.row]

/-- The kinds of columns of raw cells. -/
def IsRaw (kind : Column.Kind) : Prop := (∀ fine, kind ≠ .instants fine) ∧ kind ≠ .naiveInstants

theorem isRaw_kind (survey : Column.Survey) : IsRaw survey.kind := by
  unfold Column.Survey.kind
  repeat' split
  all_goals exact ⟨nofun, nofun⟩

theorem isRaw_surveyFrom (all : List Json) (survey : Column.Survey) (cells : List Json) :
    IsRaw (Column.surveyFrom all survey cells) := by
  induction cells generalizing survey with
  | nil => exact isRaw_kind survey
  | cons cell rest ih =>
      have hothers : IsRaw (Column.kindWithOthers all) := by
        unfold Column.kindWithOthers
        dsimp only
        split
        · exact ⟨nofun, nofun⟩
        · exact ⟨nofun, nofun⟩
      cases cell with
      | null => exact ih _
      | bool flag => exact ih _
      | float number => exact ih _
      | int whole =>
          simp only [Column.surveyFrom]
          split
          · exact ih _
          · exact ⟨nofun, nofun⟩
      | text raw => exact hothers
      | list items => exact hothers
      | object fields => exact hothers

theorem convertTimestamps_ofPairs (hraw : IsRaw timeKind) :
    convertTimestamps "timestamp" (ofPairs timeKind valueKind pairs) =
      .ok (ofPairs (Column.instants timeKind (pairs.map (·.time.raw))).1 valueKind
        (List.zipWith Pair.setTime pairs
          ((Column.instants timeKind (pairs.map (·.time.raw))).2.map .instant))) := by
  have hkind : (ofPairs timeKind valueKind pairs).kindAt 0 = timeKind := rfl
  simp only [convertTimestamps, place, places_timestamp, ok_bind, hkind, cellsAt_zero,
    List.map_map]
  split
  case h_1 fine => exact absurd rfl (hraw.1 fine)
  case h_2 => exact absurd rfl hraw.2
  case h_3 =>
    rw [setColumn_zero, pure_eq_ok]
    rfl

theorem coerceNumeric_ofPairs (hraw : IsRaw valueKind) :
    coerceNumeric "value" (ofPairs timeKind valueKind pairs) =
      (Column.numbers (pairs.map (·.value.raw))).map fun numbers =>
        ofPairs timeKind .number (List.zipWith Pair.setValue pairs
          (numbers.map fun number => .datum (.float number))) := by
  have hkind : (ofPairs timeKind valueKind pairs).kindAt 1 = valueKind := rfl
  have hcells : (pairs.map Pair.value).map Cell.raw = pairs.map (·.value.raw) := List.map_map ..
  simp only [coerceNumeric, place, places_value, ok_bind, hkind, cellsAt_one, hcells]
  split
  case h_1 fine => exact absurd rfl (hraw.1 fine)
  case h_2 => exact absurd rfl hraw.2
  case h_3 =>
    cases Column.numbers (pairs.map (·.value.raw)) with
    | error failure => rfl
    | ok numbers =>
        rw [ok_bind, setColumn_one, pure_eq_ok]
        rfl

theorem dropMissing_ofPairs :
    dropMissing ["timestamp", "value"] (ofPairs timeKind valueKind pairs) =
      .ok (ofPairs timeKind valueKind
        (pairs.filter fun pair => !pair.time.isMissing && !pair.value.isMissing)) := by
  simp only [dropMissing, List.mapM_cons, List.mapM_nil, places_timestamp, places_value, ok_bind,
    pure_eq_ok, List.flatten_cons, List.flatten_nil, List.append_nil, List.cons_append,
    List.nil_append, List.foldl_cons, List.foldl_nil, keep_zero, keep_one, List.filter_filter]
  simp only [Bool.and_comm]

theorem dropNonFinite_ofPairs :
    dropNonFinite "value" (ofPairs timeKind .number pairs) =
      .ok (ofPairs timeKind .number (pairs.filter fun pair => isFiniteCell pair.value)) := by
  have hkind : (ofPairs timeKind .number pairs).kindAt 1 = .number := rfl
  simp only [dropNonFinite, place, places_value, List.isEmpty_cons, List.map_cons, List.map_nil,
    hkind, haveFiniteCells, ok_bind, keep_one]
  rfl

/-! ### Readings -/

/-- The cells of a reading. -/
def ofReading (reading : Reading) : List Cell :=
  [.instant (some reading.instant), .datum (.float reading.value)]

/-- The cells of all rows. -/
def contents (table : Table) : List (List Cell) := table.rows.map (·.cells)

variable {entries : List (Nat × Reading)}

/-- A column of instants can be compared with the limits that readings in it can. -/
theorem limitTest_instants {holds : (nanos limit : Int) → Bool} (hconverted : ¬IsRaw timeKind)
    (limit : Moment) (cells : List Cell) :
    limitTest holds (some limit) timeKind cells =
      (Reading.limitInstant timeKind limit).map fun limit =>
        cells.map fun cell => cell.nanos?.any fun nanos => holds nanos limit := by
  cases timeKind with
  | instants fine =>
      simp only [limitTest]
      cases Reading.limitInstant (.instants fine) limit <;> rfl
  | naiveInstants =>
      simp only [limitTest]
      cases Reading.limitInstant .naiveInstants limit <;> rfl
  | _ => exact absurd ⟨nofun, nofun⟩ hconverted

theorem precedes_instant (first second : Int) :
    Cell.precedes (.instant (some first)) (.instant (some second)) = decide (second ≤ first) := by
  have horder : (compare first second = .lt) ↔ first < second := Int.compare_eq_lt
  by_cases hle : second ≤ first
  · have hne : compare first second ≠ .lt := mt horder.mp (Int.not_lt.mpr hle)
    simp [Cell.precedes, Cell.isMissing, Cell.order?, hle, hne]
  · have hlt : compare first second = .lt := horder.mpr (Int.not_le.mp hle)
    simp [Cell.precedes, Cell.isMissing, Cell.order?, hle, hlt]

theorem dropOlderThan_ofReadings (oldest : Option Moment) (hconverted : ¬IsRaw timeKind) :
    dropOlderThan "timestamp" oldest (ofPairs timeKind valueKind (entries.map Pair.ofReading)) =
      match oldest with
      | none => .ok (ofPairs timeKind valueKind (entries.map Pair.ofReading))
      | some limit => (Reading.limitInstant timeKind limit).map fun limit =>
          ofPairs timeKind valueKind
            ((entries.filter fun entry => limit < entry.2.instant).map Pair.ofReading) := by
  cases oldest with
  | none => rfl
  | some limit =>
      have hkind : (ofPairs timeKind valueKind (entries.map Pair.ofReading)).kindAt 0 =
          timeKind := rfl
      simp only [dropOlderThan, retain, places_timestamp, hkind, cellsAt_zero,
        limitTest_instants hconverted]
      cases Reading.limitInstant timeKind limit with
      | error failure => rfl
      | ok limit =>
          have hflags := keepFlagged_map timeKind valueKind (entries.map Pair.ofReading)
            fun pair => pair.time.nanos?.any fun nanos => decide (limit < nanos)
          rw [List.filter_map] at hflags
          simp only [Except.map, ok_bind, pure_eq_ok, List.map_map] at hflags ⊢
          exact congrArg Except.ok hflags

theorem takeLatest_ofReadings (count : Option Int) :
    takeLatest "timestamp" count (ofPairs timeKind valueKind (entries.map Pair.ofReading)) =
      .ok (ofPairs timeKind valueKind ((Reading.capped count
        (entries.mergeSort fun first second => second.2.instant ≤ first.2.instant)).map
          Pair.ofReading)) := by
  have hordered : Cell.areOrdered ((entries.map Pair.ofReading).map Pair.time) = true := by
    simp [Cell.areOrdered, Pair.ofReading, Cell.isMissing, Cell.order?]
  let cellOf (row : Row) : Cell := row.cells.getD 0 (.datum .null)
  have hprecedes (first second : Nat × Reading) : decide (second.2.instant ≤ first.2.instant) =
      Cell.precedes (cellOf (Pair.ofReading first).row) (cellOf (Pair.ofReading second).row) :=
    (precedes_instant first.2.instant second.2.instant).symm
  have hsort : ((entries.map Pair.ofReading).map Pair.row).mergeSort (fun first second =>
        Cell.precedes (cellOf first) (cellOf second)) =
      ((entries.mergeSort fun first second => second.2.instant ≤ first.2.instant).map
        Pair.ofReading).map Pair.row := by
    rw [List.map_map, List.map_map]
    exact (List.map_mergeSort (f := Pair.row ∘ Pair.ofReading)
      (s := fun first second => Cell.precedes (cellOf first) (cellOf second))
      fun first _ second _ => hprecedes first second).symm
  simp only [takeLatest, place, places_timestamp, ok_bind, cellsAt_zero, hordered, if_true,
    pure_eq_ok]
  dsimp only [cellOf] at hsort
  simp only [ofPairs, hsort, Reading.capped_map]

/-- The newest rows are those of the newest readings. -/
theorem contents_takeLatest (count : Option Int) :
    (takeLatest "timestamp" count
      (ofPairs timeKind valueKind (entries.map Pair.ofReading))).map contents =
        .ok ((Reading.capped count (Reading.newestFirst (entries.map Prod.snd))).map
          ofReading) := by
  have hsort : Reading.newestFirst (entries.map Prod.snd) =
      (entries.mergeSort fun first second => second.2.instant ≤ first.2.instant).map Prod.snd :=
    (List.map_mergeSort (f := Prod.snd) (l := entries)
      (s := fun first second : Reading => second.instant ≤ first.instant)
      fun _ _ _ _ => rfl).symm
  rw [takeLatest_ofReadings, hsort, Reading.capped_map, List.map_map]
  simp only [Except.map, contents, ofPairs, List.map_map]
  rfl

/-- The newest rows after a cutoff are those of the newest readings after it. -/
theorem contents_latest (valueKind : Column.Kind) (entries : List (Nat × Reading))
    (oldest : Option Moment) (count : Option Int) (hconverted : ¬IsRaw timeKind) :
    (dropOlderThan "timestamp" oldest
      (ofPairs timeKind valueKind (entries.map Pair.ofReading)) >>=
        takeLatest "timestamp" count).map contents =
      (do
        let readings ← Reading.newerThan timeKind oldest (entries.map Prod.snd)
        pure (Reading.capped count (Reading.newestFirst readings))).map (List.map ofReading) := by
  rw [dropOlderThan_ofReadings oldest hconverted]
  cases oldest with
  | none => exact contents_takeLatest count
  | some limit =>
      simp only [Reading.newerThan, Reading.within]
      cases Reading.limitInstant timeKind limit with
      | error failure => rfl
      | ok limit =>
          simp only [Except.map, ok_bind, pure_eq_ok, List.filter_map]
          exact contents_takeLatest count

/-! ### Records -/

variable {records : List Record}

/-- Rows with two cells for each record. -/
def pairsOf (time value : Record → Cell) (records : List Record) : List Pair :=
  records.zipIdx.map fun entry => ⟨entry.2, time entry.1, value entry.1⟩

theorem map_zipIdx_fst {α : Type} (f : Record → α) (records : List Record) :
    (records.zipIdx.map fun entry => f entry.1) = records.map f := by
  conv_rhs => rw [← List.zipIdx_map_fst 0 records, List.map_map]
  rfl

theorem map_pairsOf {α : Type} (f : Cell → Cell → α) (time value : Record → Cell) :
    ((pairsOf time value records).map fun pair => f pair.time pair.value) =
      records.map fun record => f (time record) (value record) := by
  rw [pairsOf, List.map_map]
  exact map_zipIdx_fst (fun record => f (time record) (value record)) records

theorem zipWith_pairsOf (set : Pair → Cell → Pair) (time value cell : Record → Cell) :
    List.zipWith set (pairsOf time value records) (records.map cell) =
      records.zipIdx.map fun entry =>
        set ⟨entry.2, time entry.1, value entry.1⟩ (cell entry.1) := by
  rw [← map_zipIdx_fst cell, pairsOf, List.zipWith_map, List.zipWith_self]

/-- Raw cells settle one by one. -/
theorem settle_eq_map (kind : Column.Kind) (cells : List Json) :
    Column.settle kind cells = cells.map fun cell =>
      if kind = .number then .float (Column.realOf cell) else cell := by
  cases kind with
  | number => rfl
  | _ => simp [Column.settle]

/-- A column of the cells that records have in one of their fields. -/
def columnOf (field : Record → Json) (records : List Record) : Column.Kind × List Json :=
  Column.ofCells (records.map field)

/-- The settled cell of a record. -/
def cellOf (field : Record → Json) (records : List Record) (record : Record) : Json :=
  if (columnOf field records).1 = .number then .float (Column.realOf (field record))
  else field record

theorem isRaw_columnOf (field : Record → Json) (records : List Record) :
    IsRaw (columnOf field records).1 := isRaw_surveyFrom _ _ _

theorem columnOf_snd (field : Record → Json) (records : List Record) :
    (columnOf field records).2 = records.map (cellOf field records) := by
  change Column.settle _ (records.map field) = _
  rw [settle_eq_map, List.map_map]
  rfl

theorem width_records (hne : records ≠ []) :
    width (records.map fun record => [record.timestamp, record.value]) = 2 := by
  have hfold (count : Nat) (records : List Record) :
      ((records.map fun record => [record.timestamp, record.value]).map List.length).foldl
        max (max count 2) = max count 2 := by
    induction records with
    | nil => rfl
    | cons record rest ih => simpa using ih
  cases records with
  | nil => exact absurd rfl hne
  | cons record rest => exact hfold 0 rest

/-- The table of raw records, a row for each of them. -/
def ofRecords (records : List Record) : Except Failure Table :=
  ofRows ["timestamp", "value"] (records.map fun record => [record.timestamp, record.value])

theorem ofRecords_eq (hne : records ≠ []) :
    ofRecords records =
      .ok (ofPairs (columnOf (·.timestamp) records).1 (columnOf (·.value) records).1
        (pairsOf (fun record => .datum (cellOf (·.timestamp) records record))
          (fun record => .datum (cellOf (·.value) records record)) records)) := by
  have hwidth : width (records.map fun record => [record.timestamp, record.value]) =
      ["timestamp", "value"].length := width_records hne
  have hcolumns (field : Record → Json) (place : Nat) (hfield : ∀ record : Record,
      [record.timestamp, record.value].getD place .null = field record) :
      Column.ofCells ((records.map fun record => [record.timestamp, record.value]).map
        fun row => row.getD place .null) = columnOf field records := by
    rw [List.map_map, columnOf]
    exact congrArg Column.ofCells (List.map_congr_left fun record _ => hfield record)
  have hrows : ((records.map fun record => [record.timestamp, record.value]).zipIdx.map
      fun entry => (⟨entry.2, [.datum ((columnOf (·.timestamp) records).2.getD entry.2 .null),
        .datum ((columnOf (·.value) records).2.getD entry.2 .null)]⟩ : Row)) =
          (pairsOf (fun record => .datum (cellOf (·.timestamp) records record))
            (fun record => .datum (cellOf (·.value) records record)) records).map Pair.row := by
    rw [List.zipIdx_map, pairsOf, List.map_map, List.map_map]
    apply List.map_congr_left
    rintro ⟨record, label⟩ hrecord
    have hget : records[label]? = some record := List.mk_mem_zipIdx_iff_getElem?.mp hrecord
    simp [columnOf_snd, Pair.row, hget]
  simp only [ofRecords, ofRows, hwidth, decide_true, Bool.or_true, if_true, List.zipIdx_cons,
    List.zipIdx_nil, List.map_cons, List.map_nil, hcolumns (·.timestamp) 0 fun _ => rfl,
    hcolumns (·.value) 1 fun _ => rfl, hrows]
  rfl

/-- The readings of records, beside the labels of their rows. -/
def entriesOf (context : Reading.Context) (records : List Record) : List (Nat × Reading) :=
  records.zipIdx.filterMap fun entry =>
    (Reading.ofRecord? context entry.1).map fun reading => (entry.2, reading)

theorem map_entriesOf (context : Reading.Context) (records : List Record) :
    (entriesOf context records).map Prod.snd = records.filterMap (Reading.ofRecord? context) := by
  have hrecords := congrArg (List.filterMap (Reading.ofRecord? context))
    (List.zipIdx_map_fst 0 records)
  rw [List.filterMap_map] at hrecords
  rw [entriesOf, List.map_filterMap, ← hrecords]
  apply List.filterMap_congr
  intro entry _
  rw [Option.map_map]
  exact Option.map_id'

/-- The cells that stand for a record once its column of times is converted. -/
def timeOf (context : Reading.Context) (record : Record) : Cell :=
  .instant (Column.instantOf context.isFine (Column.stampIn context.areNumbers record.timestamp))

def valueOf (context : Reading.Context) (record : Record) : Cell :=
  .datum (.float (if context.areWhole then Decimal.oneZero (Column.plainNumber record.value)
    else Column.plainNumber record.value))

/-- A row stays if it has a time and a finite value, and then it is that of a reading. -/
theorem guard_ofCells? (label : Nat) (instant : Option Int) (number : Float) :
    Option.guard (fun pair : Pair =>
        isFiniteCell pair.value && (!pair.time.isMissing && !pair.value.isMissing))
      ⟨label, .instant instant, .datum (.float number)⟩ =
        (Reading.ofCells? instant number).map fun reading => Pair.ofReading (label, reading) := by
  cases instant with
  | none => simp [Cell.isMissing, Reading.ofCells?]
  | some instant =>
      cases hfinite : Decimal.isFinite number with
      | false => simp [isFiniteCell, Reading.ofCells?, hfinite]
      | true =>
          simp [isFiniteCell, Reading.ofCells?, Cell.isMissing, Json.isMissing, Pair.ofReading,
            hfinite, Decimal.isNaN_of_isFinite hfinite]

theorem filter_pairsOf (context : Reading.Context) (records : List Record) :
    ((pairsOf (timeOf context) (valueOf context) records).filter fun pair =>
        !pair.time.isMissing && !pair.value.isMissing).filter
          (fun pair => isFiniteCell pair.value) =
      (entriesOf context records).map Pair.ofReading := by
  rw [List.filter_filter, ← List.filterMap_eq_filter, pairsOf, List.filterMap_map, entriesOf,
    List.map_filterMap]
  apply List.filterMap_congr
  intro entry _
  rw [Option.map_map]
  exact guard_ofCells? entry.2 _ _

/-! ### The selection -/

theorem convertTimestamps_records (value : Record → Cell) :
    convertTimestamps "timestamp" (ofPairs (columnOf (·.timestamp) records).1 valueKind
      (pairsOf (fun record => .datum (cellOf (·.timestamp) records record)) value records)) =
        .ok (ofPairs (Reading.timestampKind records) valueKind
          (pairsOf (timeOf (Reading.contextOf records)) value records)) := by
  have hcells : (pairsOf (fun record => .datum (cellOf (·.timestamp) records record)) value
      records).map (·.time.raw) = (columnOf (·.timestamp) records).2 := by
    rw [columnOf_snd]
    exact map_pairsOf (fun time _ => time.raw) _ _
  have hinstants : ((Column.instants (columnOf (·.timestamp) records).1
      (columnOf (·.timestamp) records).2).2).map Cell.instant =
        records.map (timeOf (Reading.contextOf records)) := by
    change (Column.instants (Column.ofCells _).1 (Column.ofCells _).2).2.map Cell.instant = _
    rw [Reading.instants_timestamps, List.map_map]
    rfl
  rw [convertTimestamps_ofPairs (isRaw_columnOf _ _), hcells, hinstants, zipWith_pairsOf]
  rfl

theorem coerceNumeric_records (time : Record → Cell) :
    coerceNumeric "value" (ofPairs timeKind (columnOf (·.value) records).1
      (pairsOf time (fun record => .datum (cellOf (·.value) records record)) records)) =
        (do
          let _ ← Column.numbers (records.map (·.value))
          .ok (ofPairs timeKind .number
            (pairsOf time (valueOf (Reading.contextOf records)) records))) := by
  have hcells : (pairsOf time (fun record => .datum (cellOf (·.value) records record))
      records).map (·.value.raw) = (columnOf (·.value) records).2 := by
    rw [columnOf_snd]
    exact map_pairsOf (fun _ value => value.raw) _ _
  rw [coerceNumeric_ofPairs (isRaw_columnOf _ _), hcells, columnOf, Column.numbers_ofCells]
  cases hnumbers : Column.numbers (records.map (·.value)) with
  | error failure => rfl
  | ok numbers =>
      obtain ⟨-, rfl⟩ := (Reading.numbers_values_iff records numbers).mp hnumbers
      simp only [Except.map, List.map_map, zipWith_pairsOf, ok_bind]
      rfl

theorem not_isRaw_timestampKind (records : List Record) :
    ¬IsRaw (Reading.timestampKind records) := by
  rintro ⟨hinstants, hnaive⟩
  unfold Reading.timestampKind Column.instants at hinstants hnaive
  dsimp only at hinstants hnaive
  split at hinstants
  · rename_i hflag
    rw [if_pos hflag] at hnaive
    exact hnaive rfl
  · exact hinstants _ rfl

/-- The transform of the table of some records leaves the rows of the readings that are selected
from them, and fails as the selection does. -/
theorem measurementFilter_records (now : Moment) (limits : Limits) (hne : records ≠ []) :
    (do
      let table ← ofRecords records
      let transform ← measurementFilter now limits
      transform table).map contents =
        (Reading.select now limits none records).map (List.map ofReading) := by
  cases hcutoff : Reading.cutoff now limits with
  | error failure =>
      have hsome : records.isEmpty = false := List.isEmpty_eq_false_iff.mpr hne
      simp only [ofRecords_eq hne, measurementFilter, Reading.select, hsome, hcutoff, ok_bind,
        error_bind, Bool.false_eq_true, if_false]
      rfl
  | ok oldest =>
      rw [Reading.select_eq hcutoff hne, ofRecords_eq hne, measurementFilter, hcutoff]
      simp only [ok_bind, pure_bind, compose, List.foldlM_cons, List.foldlM_nil, bind_pure,
        selectColumns_ofPairs, convertTimestamps_records, coerceNumeric_records]
      cases hnumbers : Column.numbers (records.map (·.value)) with
      | error failure => rfl
      | ok numbers =>
          obtain ⟨-, rfl⟩ := (Reading.numbers_values_iff records numbers).mp hnumbers
          have hlatest := contents_latest .number
            (entriesOf (Reading.contextOf records) records) oldest limits.maxCount
            (not_isRaw_timestampKind records)
          rw [map_entriesOf] at hlatest
          simp only [ok_bind, dropMissing_ofPairs, dropNonFinite_ofPairs, filter_pairsOf,
            Reading.instants_timestamps, Reading.filterMap_zipWith_ofCells?]
          exact hlatest

end Table

end AirQuality
