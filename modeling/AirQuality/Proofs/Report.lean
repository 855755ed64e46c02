import AirQuality.Proofs.Reading.Column
import AirQuality.Proofs.Time.Stamp
import AirQuality.Report

/-!
# Reports as tables

A table of a report has a row for each summary, in order: the region's name, the values of the
summary, and the instant of its latest moment.  The moments go through their written forms, all of
which have to be of one form; a moment without microseconds is written without a fraction.  So there
is a table if all moments have microseconds or none has, and otherwise there is none.
-/

namespace AirQuality

open Outcome
open Time (Moment)

/-! ### Columns -/

namespace Column

/-- A cell as it stands in a column of a kind. -/
def settled (kind : Kind) (cell : Json) : Json :=
  match kind with
  | .number => .float (realOf cell)
  | _ => cell

theorem settle_eq_map (kind : Kind) (cells : List Json) :
    settle kind cells = cells.map (settled kind) := by
  cases kind with
  | number => rfl
  | _ => exact (List.map_id cells).symm

theorem settled_of_ne_number {kind : Kind} (hkind : kind ≠ .number) (cell : Json) :
    settled kind cell = cell := by
  cases kind with
  | number => exact absurd rfl hkind
  | _ => rfl

theorem settled_float (kind : Kind) (value : Float) :
    settled kind (.float value) = .float value := by
  cases kind <;> rfl

/-- A cell that is no number keeps its column from being one of numbers. -/
theorem settled_of_not_isNumeric {cells : List Json} {cell : Json} (hcell : cell ∈ cells)
    (hother : ¬IsNumeric cell) : settled (kindOf cells) cell = cell := by
  apply settled_of_ne_number
  intro hkind
  exact hother ((surveyFrom_eq_number hkind).2.1 cell hcell)

/-- A column of whole numbers keeps them. -/
theorem settled_of_whole {cells : List Json} (hwhole : ∀ cell ∈ cells, ∃ value, cell = .int value)
    (cell : Json) : settled (kindOf cells) cell = cell := by
  apply settled_of_ne_number
  intro hkind
  obtain ⟨-, -, hsome⟩ := surveyFrom_eq_number hkind
  obtain ⟨other, hother, hnone⟩ : ∃ cell ∈ cells, wholeOf? cell = none := by simpa using hsome
  obtain ⟨value, rfl⟩ := hwhole other hother
  cases hnone

end Column

/-! ### Tables -/

namespace Table

/-- The cells at a place of raw rows. -/
def rawColumn (rows : List (List Json)) (place : Nat) : List Json :=
  rows.map fun row => row.getD place .null

/-- A raw row as its columns settle it. -/
def settledRow (rows : List (List Json)) (count : Nat) (row : List Json) : List Cell :=
  (List.range count).map fun place =>
    .datum (Column.settled (Column.kindOf (rawColumn rows place)) (row.getD place .null))

theorem foldl_max_of_eq {count : Nat} {sizes : List Nat} (hsizes : ∀ size ∈ sizes, size = count) :
    sizes.foldl max count = count := by
  induction sizes with
  | nil => rfl
  | cons size rest ih =>
      rw [List.foldl_cons, hsizes size List.mem_cons_self, Nat.max_self]
      exact ih fun other hother => hsizes other (List.mem_cons_of_mem size hother)

theorem width_of_uniform {count : Nat} {rows : List (List Json)}
    (hwidth : ∀ row ∈ rows, row.length = count) : rows = [] ∨ width rows = count := by
  cases rows with
  | nil => exact .inl rfl
  | cons row rest =>
      right
      rw [width, List.map_cons, List.foldl_cons, hwidth row List.mem_cons_self, Nat.zero_max]
      apply foldl_max_of_eq
      intro size hsize
      obtain ⟨other, hother, rfl⟩ := List.mem_map.mp hsize
      exact hwidth other (List.mem_cons_of_mem row hother)

theorem getD_ofCells {rows : List (List Json)} {row : List Json} {label : Nat}
    (hrow : (row, label) ∈ rows.zipIdx) (place : Nat) :
    (Column.ofCells (rawColumn rows place)).2.getD label .null =
      Column.settled (Column.kindOf (rawColumn rows place)) (row.getD place .null) := by
  obtain ⟨hlabel, hsame⟩ := List.mem_zipIdx' hrow
  rw [Column.ofCells, Column.settle_eq_map, rawColumn, List.map_map, List.getD_eq_getElem?_getD,
    List.getElem?_map, List.getElem?_eq_getElem hlabel, ← hsame]
  rfl

theorem map_datum_eq_settledRow {names : List String} {rows : List (List Json)}
    {row : List Json} {label : Nat} (hrow : (row, label) ∈ rows.zipIdx) :
    (names.zipIdx.map fun column => Column.ofCells (rawColumn rows column.2)).map
        (fun column => Cell.datum (column.2.getD label .null)) =
      settledRow rows names.length row := by
  calc
    _ = names.zipIdx.map fun column => Cell.datum (Column.settled
          (Column.kindOf (rawColumn rows column.2)) (row.getD column.2 .null)) := by
      rw [List.map_map]
      apply List.map_congr_left
      intro column _
      rw [Function.comp_apply, getD_ofCells hrow]
    _ = (names.zipIdx.map Prod.snd).map fun place => Cell.datum (Column.settled
          (Column.kindOf (rawColumn rows place)) (row.getD place .null)) := by
      rw [List.map_map]
      rfl
    _ = settledRow rows names.length row := by
      rw [List.zipIdx_map_snd, ← List.range_eq_range', settledRow]

/-- Rows that have a cell in every column make up a table. -/
theorem exists_ofRows {names : List String} {rows : List (List Json)}
    (hwidth : ∀ row ∈ rows, row.length = names.length) :
    ∃ table, ofRows names rows = .ok table ∧ table.names = names ∧
      table.rows = rows.zipIdx.map fun (row, label) =>
        ⟨label, settledRow rows names.length row⟩ := by
  have hwide : (rows.isEmpty || decide (width rows = names.length)) = true := by
    cases width_of_uniform hwidth with
    | inl hempty => rw [hempty, List.isEmpty_nil, Bool.true_or]
    | inr hcount => rw [decide_eq_true hcount, Bool.or_true]
  refine ⟨_, if_pos hwide, ?_, ?_⟩
  · rw [Table.names, List.map_fst_zip]
    simp
  · apply List.map_congr_left
    rintro ⟨row, label⟩ hrow
    exact congrArg (Row.mk label) (map_datum_eq_settledRow hrow)

/-! ### Dated tables -/

theorem place_of_names {table : Table} {names : List String} {name : String}
    (hnames : table.names = names) {place : Nat}
    (hplace : (names.zipIdx.filter fun entry => entry.1 = name).map (·.2) = [place]) :
    table.place name = .ok place := by
  rw [Table.place, places, hnames, hplace]

theorem names_setColumn (table : Table) (place : Nat) (kind : Column.Kind) (cells : List Cell) :
    (table.setColumn place kind cells).names = table.names := by
  apply List.ext_getElem?
  intro index
  simp only [names, setColumn, List.getElem?_map, List.getElem?_modify, Option.map_eq_map,
    Option.map_map]
  congr 1
  funext field
  by_cases hplace : place = index
  · simp [hplace]
  · simp [hplace]

end Table

/-! ### Summaries -/

/-- A moment on UTC in the calendar. -/
structure Time.Moment.IsUtc (moment : Moment) : Prop where
  offset : moment.offset = some 0
  calendar : Time.inCalendar moment.wall = true

/-- A summary whose parameter is described in texts. -/
structure Summary.IsDescribed (summary : Summary) : Prop where
  displayName : ∃ text, summary.displayName = .text text
  unit : ∃ text, summary.unit = .text text
  description : ∃ text, summary.description = .text text

namespace Report

variable {report : Report}

/-- A report of whose latest moments all are written with a fraction or none is. -/
def AreWrittenAlike (report : Report) : Prop :=
  ∀ summary ∈ report.summaries, ∀ other ∈ report.summaries,
    ('.' ∈ summary.latestMoment.iso.toList ↔ '.' ∈ other.latestMoment.iso.toList)

instance (report : Report) : Decidable report.AreWrittenAlike :=
  inferInstanceAs (Decidable (∀ summary ∈ report.summaries, _))

def rawRows (report : Report) : List (List Json) :=
  report.summaries.map fun summary => summary.fields.map (·.2)

/-- The values of a summary but for its latest moment, as their columns settle them. -/
def settledValues (report : Report) (summary : Summary) : List Cell :=
  Table.settledRow report.rawRows 10 (summary.fields.map (·.2))

/-- The latest moment of a summary in nanoseconds. -/
def momentCell (summary : Summary) : Cell := .instant (some (summary.latestMoment.instant * 1000))

/-- The row of a summary. -/
def row (report : Report) (summary : Summary) (label : Nat) : Row where
  label := label
  cells := .datum (.text report.region.name) ::
    (report.settledValues summary ++ [momentCell summary])

/-! ### Moments -/

theorem hasUniformMoments_iff (hutc : ∀ summary ∈ report.summaries, summary.latestMoment.IsUtc) :
    report.hasUniformMoments = true ↔ report.AreWrittenAlike := by
  have hshows : ∀ summary ∈ report.summaries,
      ('.' ∈ summary.latestMoment.iso.toList ↔ summary.showsMicros = true) := by
    intro summary hmem
    rw [Time.Stamp.point_mem_iso_iff (hutc summary hmem).offset, Summary.showsMicros,
      decide_eq_true_iff]
  have halike : report.AreWrittenAlike ↔ ∀ summary ∈ report.summaries,
      ∀ other ∈ report.summaries, summary.showsMicros = other.showsMicros := by
    constructor
    · intro halike summary hmem other hother
      rw [Bool.eq_iff_iff, ← hshows summary hmem, ← hshows other hother]
      exact halike summary hmem other hother
    · intro hsame summary hmem other hother
      rw [hshows summary hmem, hshows other hother, hsame summary hmem other hother]
  rw [halike, hasUniformMoments]
  cases report.summaries with
  | nil => simp
  | cons first rest =>
      simp only [List.all_eq_true, decide_eq_true_iff]
      constructor
      · intro hrest
        have hfirst : ∀ summary ∈ first :: rest, summary.showsMicros = first.showsMicros :=
          List.forall_mem_cons.mpr ⟨rfl, hrest⟩
        intro summary hmem other hother
        rw [hfirst summary hmem, hfirst other hother]
      · intro hsame summary hmem
        exact hsame summary (List.mem_cons_of_mem first hmem) first List.mem_cons_self

/-! ### Rows -/

theorem exists_bareTable (report : Report) :
    ∃ table, report.bareTable = .ok table ∧ table.names = Summary.columns ∧
      table.rows = report.summaries.zipIdx.map fun (summary, label) =>
        ⟨label, Table.settledRow report.rawRows 11 (summary.fields.map (·.2))⟩ := by
  have hwidth : ∀ row ∈ report.rawRows, row.length = Summary.columns.length := by
    intro row hrow
    obtain ⟨summary, -, rfl⟩ := List.mem_map.mp hrow
    rfl
  obtain ⟨table, htable, hnames, hrows⟩ := Table.exists_ofRows hwidth
  refine ⟨table, htable, hnames, ?_⟩
  rw [hrows, rawRows, List.zipIdx_map, List.map_map]
  rfl

/-- The latest moment stands in the last of the columns. -/
theorem settledRow_set (report : Report) (summary : Summary) :
    (Table.settledRow report.rawRows 11 (summary.fields.map (·.2))).set 10 (momentCell summary) =
      report.settledValues summary ++ [momentCell summary] := by
  rw [settledValues, Table.settledRow, List.range_succ, List.map_append]
  exact List.set_append_right _ _ (by simp)

theorem toTable_of_uniform (huniform : report.hasUniformMoments = true) :
    ∃ table, report.toTable = .ok table ∧ table.names = regionColumn :: Summary.columns ∧
      table.rows =
        report.summaries.zipIdx.map fun (summary, label) => report.row summary label := by
  obtain ⟨table, hbare, hnames, hrows⟩ := exists_bareTable report
  have hplace : table.place momentColumn = .ok 10 := Table.place_of_names hnames (by decide)
  have hmoments : report.momentCells =
      report.summaries.zipIdx.map fun entry => momentCell entry.1 := by
    calc
      _ = (report.summaries.zipIdx.map Prod.fst).map momentCell := by
        rw [List.zipIdx_map_fst]
        rfl
      _ = report.summaries.zipIdx.map fun entry => momentCell entry.1 := List.map_map
  have htable : report.toTable = .ok ((table.setColumn 10 (.instants false)
      report.momentCells).insertFirst regionColumn (.text report.region.name)) := by
    rw [toTable, hbare, ok_bind, if_pos huniform, hplace, ok_bind, pure_eq_ok]
  refine ⟨_, htable, ?_, ?_⟩
  · calc
      _ = regionColumn :: (table.setColumn 10 (.instants false) report.momentCells).names := rfl
      _ = regionColumn :: Summary.columns := by rw [Table.names_setColumn, hnames]
  · rw [Table.insertFirst, Table.setColumn, hrows, hmoments, List.zipWith_map, List.zipWith_self,
      List.map_map]
    apply List.map_congr_left
    rintro ⟨summary, label⟩ -
    rw [Function.comp_apply, settledRow_set]
    rfl

theorem toTable_of_mixed (hmixed : report.hasUniformMoments = false) :
    report.toTable = .error (.table .mixedTimestampForms) := by
  obtain ⟨table, hbare, -, -⟩ := exists_bareTable report
  rw [toTable, hbare, ok_bind, hmixed]
  rfl

theorem mem_rawColumn {summary : Summary} (hmem : summary ∈ report.summaries) (place : Nat) :
    (summary.fields.map (·.2)).getD place .null ∈ Table.rawColumn report.rawRows place := by
  rw [Table.rawColumn, rawRows, List.map_map]
  exact List.mem_map_of_mem (f := _) hmem

theorem settledValues_of_isDescribed
    (hdescribed : ∀ summary ∈ report.summaries, summary.IsDescribed) {summary : Summary}
    (hmem : summary ∈ report.summaries) :
    report.settledValues summary = (summary.fields.dropLast.map (·.2)).map .datum := by
  have hplain (place : Nat)
      (hother : ¬Column.IsNumeric ((summary.fields.map (·.2)).getD place .null)) :
      Column.settled (Column.kindOf (Table.rawColumn report.rawRows place))
        ((summary.fields.map (·.2)).getD place .null) =
          (summary.fields.map (·.2)).getD place .null :=
    Column.settled_of_not_isNumeric (mem_rawColumn hmem place) hother
  have hcount : ∀ cell ∈ Table.rawColumn report.rawRows 8, ∃ value, cell = .int value := by
    intro cell hcell
    rw [Table.rawColumn, rawRows, List.map_map] at hcell
    obtain ⟨other, -, rfl⟩ := List.mem_map.mp hcell
    exact ⟨other.count, rfl⟩
  have htext {cell : Json} (htext : ∃ text, cell = .text text) : ¬Column.IsNumeric cell := by
    obtain ⟨text, rfl⟩ := htext
    exact id
  have hmine := hdescribed summary hmem
  have hkept : ∀ place < 10,
      Column.settled (Column.kindOf (Table.rawColumn report.rawRows place))
        ((summary.fields.map (·.2)).getD place .null) =
          (summary.fields.map (·.2)).getD place .null := by
    intro place hplace
    match place, hplace with
    | 0, _ => exact hplain 0 (htext ⟨_, rfl⟩)
    | 1, _ => exact hplain 1 (htext hmine.displayName)
    | 2, _ => exact hplain 2 (htext hmine.unit)
    | 3, _ => exact hplain 3 (htext hmine.description)
    | 4, _ => exact hplain 4 id
    | 5, _ => exact Column.settled_float _ _
    | 6, _ => exact Column.settled_float _ _
    | 7, _ => exact Column.settled_float _ _
    | 8, _ => exact Column.settled_of_whole hcount _
    | 9, _ => exact Column.settled_float _ _
  calc
    _ = (List.range 10).map fun place =>
          Cell.datum ((summary.fields.map (·.2)).getD place .null) := by
      apply List.map_congr_left
      intro place hplace
      rw [hkept place (List.mem_range.mp hplace)]
    _ = (summary.fields.dropLast.map (·.2)).map .datum := rfl

/-- A report is made into a table if and only if its latest moments are written alike; if they are
not, it fails for that reason.  The table has the region and the fields of a summary as its columns,
and a row for each summary in order.  What is read back from the written form of a latest moment is
the instant that stands in its row, and texts, lists and numbers stand there as they are. -/
theorem toTable_tells (report : Report)
    (hutc : ∀ summary ∈ report.summaries, summary.latestMoment.IsUtc) :
    (report.AreWrittenAlike → ∃ table, report.toTable = .ok table ∧
      table.names = regionColumn :: Summary.columns ∧
      table.rows = report.summaries.zipIdx.map fun (summary, label) => report.row summary label) ∧
    (¬report.AreWrittenAlike → report.toTable = .error (.table .mixedTimestampForms)) ∧
    (∀ summary ∈ report.summaries, Time.Stamp.ofText? summary.latestMoment.iso =
      some ⟨summary.latestMoment.instant * 1000, false⟩) ∧
    ((∀ summary ∈ report.summaries, summary.IsDescribed) → ∀ summary ∈ report.summaries,
      report.settledValues summary = (summary.fields.dropLast.map (·.2)).map .datum) := by
  refine ⟨?_, ?_, ?_, fun hdescribed summary => settledValues_of_isDescribed hdescribed⟩
  · intro halike
    exact toTable_of_uniform ((hasUniformMoments_iff hutc).mpr halike)
  · intro hmixed
    apply toTable_of_mixed
    rw [Bool.eq_false_iff, Ne, hasUniformMoments_iff hutc]
    exact hmixed
  · intro summary hmem
    have hmoment := hutc summary hmem
    rw [Time.Stamp.ofText?_iso hmoment.offset hmoment.calendar, Moment.instant, hmoment.offset,
      Option.getD_some, Int.sub_zero]

/-- A report of two parameters with the moments of their latest readings. -/
def ofTwo (first second : Moment) : Report where
  region := ⟨"mazowieckie", .whole 51, .whole 54, .whole 19, .whole 23⟩
  summaries :=
    [⟨"PM10", .text "PM10", .text "µg/m³", .text "", ["GIOS"], 1, 1, 1, 1, 1, first⟩,
      ⟨"SO2", .text "SO2", .text "µg/m³", .text "", ["GIOS", "OPENAQ"], 2, 1, 3, 2, 3, second⟩]

/-- A moment on UTC so many microseconds after eleven o'clock on 1 June 2025. -/
def afterEleven (micros : Int) : Moment := .atUtc (1748775600000000 + micros)

/-- Half a second and a microsecond past the hour are both written with a fraction. -/
theorem toTable_tells_fractions :
    ∃ table, (ofTwo (afterEleven 500000) (afterEleven 1)).toTable = .ok table ∧
      table.names = regionColumn :: Summary.columns ∧
      table.rows.map (·.cells[0]?) = [some (.datum (.text "mazowieckie")),
        some (.datum (.text "mazowieckie"))] ∧
      table.rows.map (·.cells[11]?) = [some (.instant (some 1748775600500000000)),
        some (.instant (some 1748775600000001000))] := by
  have hutc : ∀ summary ∈ (ofTwo (afterEleven 500000) (afterEleven 1)).summaries,
      summary.latestMoment.IsUtc :=
    List.forall_mem_cons.mpr ⟨⟨rfl, by decide +kernel⟩,
      List.forall_mem_singleton.mpr ⟨rfl, by decide +kernel⟩⟩
  obtain ⟨htable, -, -, -⟩ := toTable_tells _ hutc
  obtain ⟨table, hok, hnames, hrows⟩ := htable (by decide +kernel)
  refine ⟨table, hok, hnames, ?_, ?_⟩
  · rw [hrows]
    rfl
  · rw [hrows]
    rfl

/-- The hour itself and half a second past it are not written alike. -/
theorem toTable_tells_oneFraction :
    (ofTwo (afterEleven 0) (afterEleven 500000)).toTable = .error (.table .mixedTimestampForms) :=
  toTable_of_mixed (by decide +kernel)

end Report

end AirQuality
