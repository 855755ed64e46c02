import AirQuality.Reading
import AirQuality.Table.Order

/-!
# Transforms of tables

A transform takes a table to a table or fails, and transforms compose.  They choose, convert
and drop columns and rows; a row keeps its label and its place among the others, except where
rows are put in order.
-/

namespace AirQuality.Table

open Time (Moment)

abbrev Transform := Table → Except Failure Table

/-- One transform after the other. -/
def compose (steps : List Transform) : Transform := fun table =>
  steps.foldlM (fun table step => step table) table

/-- The columns of these names; a name that no column has is passed over. -/
def selectColumns (names : List String) : Transform := fun table =>
  .ok (table.project (names.flatMap table.places))

/-- Turns a column into instants; what is not a timestamp is missing.  Flags become instants on
no particular clock, and a second turn puts those on UTC. -/
def convertTimestamps (name : String) : Transform := fun table => do
  let place ← table.place name
  let cells := table.cellsAt place
  match table.kindAt place with
  | .instants _ => pure table
  | .naiveInstants => pure (table.setColumn place (.instants true) cells)
  | kind =>
    let (kind, instants) := Column.instants kind (cells.map Cell.raw)
    pure (table.setColumn place kind (instants.map .instant))

/-- The number an instant counts as: its microseconds, or nanoseconds in a fine column. -/
def instantNumber (fine : Bool) (nanos : Option Int) : Float :=
  match nanos with
  | some nanos => Float.ofInt (if fine then nanos else nanos / 1000)
  | none => Float.ofInt (-Column.int64Bound)

/-- Turns a column into numbers; what does not stand for a number is not a number. -/
def coerceNumeric (name : String) : Transform := fun table => do
  let place ← match table.place name with
    | .error (.table .ambiguousColumn) => .error (.table .unsupported)
    | found => found
  let cells := table.cellsAt place
  let numbers ← match table.kindAt place with
    | .instants fine => pure (cells.map fun cell => instantNumber fine cell.nanos?)
    | .naiveInstants => pure (cells.map fun cell => instantNumber true cell.nanos?)
    | _ => Column.numbers (cells.map Cell.raw)
  pure (table.setColumn place .number (numbers.map fun number => .datum (.float number)))

/-- Drops the rows with a missing cell in one of the columns. -/
def dropMissing (names : List String) : Transform := fun table => do
  let places ← names.mapM fun name =>
    match table.places name with
    | [] => .error (.table .missingColumn)
    | places => .ok places
  pure (places.flatten.foldl (fun table place => table.keep place (!·.isMissing)) table)

/-! ### Rows that pass a test -/

/-- A test of the cells of a column, which its kind may not support. -/
abbrev Test := Column.Kind → List Cell → Except Failure (List Bool)

/-- Keeps the rows whose cell in a column passes a test.  If all columns have one name, the rows
stay and the cells that fail go missing. -/
def retain (test : Test) (name : String) : Transform := fun table => do
  let flagsAt (place : Nat) : Except Failure (List Bool) :=
    test (table.kindAt place) (table.cellsAt place)
  match table.places name with
  | [] => .error (.table .missingColumn)
  | [place] => pure (table.keepFlagged (← flagsAt place))
  | places =>
    let flags ← places.mapM flagsAt
    if places.length = table.fields.length then
      pure ((places.zip flags).foldl (fun table (place, flags) => table.mask place flags) table)
    else .error (.table .ambiguousColumn)

def isFiniteCell : Cell → Bool
  | .datum (.float value) => Decimal.isFinite value
  | .datum _ => true
  | .instant nanos => nanos.isSome

/-- Whether it makes sense to ask for the finite cells of columns of some kinds together. -/
def haveFiniteCells (kinds : List Column.Kind) : Bool :=
  kinds.all (fun kind => kind = .whole ∨ kind = .number) || kinds.all (· = .flag) ||
    kinds.all (· = .naiveInstants)

/-- Drops the rows whose number is not finite. -/
def dropNonFinite (name : String) : Transform := fun table =>
  let places := table.places name
  if places.isEmpty then .error (.table .missingColumn)
  else if haveFiniteCells (places.map table.kindAt) then do
    pure (table.keep (← table.place name) isFiniteCell)
  else .error (.table .unsupported)

/-- The test whether instants stand in a relation to a limit; without a limit none does.  Texts
and mixtures can be compared with a limit only if they hold no value, and numbers never. -/
def limitTest (holds : (nanos limit : Int) → Bool) (limit : Option Moment) : Test :=
  fun kind cells =>
    match kind, limit with
    | .whole, _ | .number, _ | .flag, _ => .error (.table .unsupported)
    | _, none => .ok (cells.map fun _ => false)
    | .text, some _ | .mixed, some _ =>
      if cells.all (·.isMissing) then .ok (cells.map fun _ => false)
      else .error (.table .unsupported)
    | kind, some limit => do
      let limit ← Reading.limitInstant kind limit
      pure (cells.map fun cell => cell.nanos?.any fun nanos => holds nanos limit)

/-- Keeps the rows after a cutoff, or all of them without one. -/
def dropOlderThan (name : String) (cutoff : Option Moment) : Transform :=
  match cutoff with
  | none => .ok
  | some cutoff => retain (limitTest (fun nanos limit => limit < nanos) (some cutoff)) name

/-- Keeps the rows at or before a limit, or none of them without one. -/
def dropNewerThan (name : String) (limit : Option Moment) : Transform :=
  retain (limitTest (fun nanos limit => nanos ≤ limit) limit) name

/-- The first so many rows when the greatest come first. -/
def takeLatest (name : String) (count : Option Int) : Transform := fun table => do
  let place ← table.place name
  if Cell.areOrdered (table.cellsAt place) then
    let cellOf (row : Row) : Cell := row.cells.getD place (.datum .null)
    let ordered := table.rows.mergeSort fun first second =>
      Cell.precedes (cellOf first) (cellOf second)
    pure { table with rows := Reading.capped count ordered }
  else .error (.table .unsupported)

/-! ### Rows by value -/

inductive Comparison where
  | atLeast
  | equal
deriving DecidableEq

namespace Comparison

def accepts : Comparison → Ordering → Bool
  | .atLeast, order => order != .lt
  | .equal, order => order == .eq

/-- What a comparison comes to where there is no order: equality never holds. -/
def withoutOrder (comparison : Comparison) : Except Failure Bool :=
  if comparison = .equal then .ok false else .error (.table .unsupported)

/-- Whether a value can be compared with numbers of a kind at all. -/
def hasCounterpart (kind : Column.Kind) (value : Json) : Bool :=
  match kind, value with
  | .flag, .int value => -Column.int64Bound ≤ value && value < Column.int64Bound
  | .number, .int value => (Decimal.ofInt? value).isSome
  | _, _ => true

/-- How a number of a column of a kind compares with another.  Fractions turn both into binary64
numbers. -/
def orderOfNumbers? (kind : Column.Kind) (cell value : Json) : Option Ordering :=
  if kind = .number || value.kind = .float then
    Decimal.Number.compare? (.real (Column.realOf cell)) (.real (Column.realOf value))
  else cell.order? value

/-- Texts that stand for no timestamp, not even a bad one. -/
def absentTexts : List String := ["", "NaT", "nat", "NAT", "nan", "NaN", "NAN"]

/-- Whether a cell of a column of numbers passes. -/
def holdsForNumber (comparison : Comparison) (kind : Column.Kind) (value : Json) (cell : Cell) :
    Except Failure Bool :=
  if value.isMissing then .ok false
  else if value.asNumber?.isNone then comparison.withoutOrder
  else if hasCounterpart kind value then
    .ok ((orderOfNumbers? kind cell.raw value).any comparison.accepts)
  else .error (.table .numberTooLarge)

/-- Whether an instant passes; the value is a text that stands for another one. -/
def holdsForInstant (comparison : Comparison) (value : Json) (cell : Cell) :
    Except Failure Bool :=
  match value with
  | .text raw =>
    if absentTexts.contains raw then .ok false
    else
      match Time.Stamp.ofText? raw with
      | some stamp =>
        .ok (cell.nanos?.any fun nanos => comparison.accepts (compare nanos stamp.nanos))
      | none => comparison.withoutOrder
  | _ => comparison.withoutOrder

/-- Whether a cell of any other column passes. -/
def holdsForValue (comparison : Comparison) (value : Json) (cell : Cell) : Except Failure Bool :=
  if cell.isMissing || value.isMissing then .ok false
  else if comparison = .equal then .ok (cell.raw.same value)
  else
    match cell.raw.order? value with
    | some order => .ok (comparison.accepts order)
    | none => comparison.withoutOrder

/-- Whether a cell of a column of a kind passes. -/
def holds (comparison : Comparison) (kind : Column.Kind) (value : Json) (cell : Cell) :
    Except Failure Bool :=
  match kind with
  | .whole | .number | .flag => comparison.holdsForNumber kind value cell
  | .instants _ | .naiveInstants => comparison.holdsForInstant value cell
  | .text | .mixed => comparison.holdsForValue value cell

/-- The test of the cells against a value, or against the items of a list, one for each.  A value
that cannot be compared with a column fails even if the column has no cells. -/
def test (comparison : Comparison) (value : Json) : Test := fun kind cells =>
  match value with
  | .list items =>
    if items.length = cells.length then
      (items.zip cells).mapM fun (item, cell) => comparison.holds kind item cell
    else .error (.table .unevenRows)
  | value => do
    let _ ← comparison.holds kind value (.datum .null)
    cells.mapM (comparison.holds kind value)

end Comparison

/-- The rows whose cell is equal to a value, or at least as great.  Equality never fails for
want of an order. -/
def keepRows (comparison : Comparison) (name : String) (value : Json) : Transform :=
  retain (comparison.test value) name

/-! ### The selection of readings -/

/-- The transform that selects readings by the rules of every provider. -/
def measurementFilter (now : Moment) (limits : Limits) : Except Failure Transform := do
  let cutoff ← Reading.cutoff now limits
  pure (compose [selectColumns ["timestamp", "value"], convertTimestamps "timestamp",
    coerceNumeric "value", dropMissing ["timestamp", "value"], dropNonFinite "value",
    dropOlderThan "timestamp" cutoff, takeLatest "timestamp" limits.maxCount])

end AirQuality.Table
