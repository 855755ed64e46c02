import AirQuality.Reading.Column

/-!
# Tables

A table has named columns, each of one kind, and rows that keep the label they started with.
A cell is missing if it holds null, a number that is not a number, or no instant.
-/

namespace AirQuality

inductive Cell where
  | datum (value : Json)
  /-- A converted timestamp in nanoseconds. -/
  | instant (nanos : Option Int)
deriving Inhabited

namespace Cell

def isMissing : Cell → Bool
  | .datum value => value.isMissing
  | .instant nanos => nanos.isNone

/-- The raw value of a cell; a converted timestamp has none. -/
def raw : Cell → Json
  | .datum value => value
  | .instant _ => .null

def toJson : Cell → Json
  | .datum value => if value.isMissing then .null else value
  | .instant nanos => .ofOption (fun nanos => .text (Time.Stamp.instantText nanos)) nanos

def nanos? : Cell → Option Int
  | .datum _ => none
  | .instant nanos => nanos

end Cell

structure Row where
  label : Nat
  cells : List Cell

structure Table where
  fields : List (String × Column.Kind)
  rows : List Row

namespace Table

def names (table : Table) : List String := table.fields.map (·.1)

/-- A table with the label of each row before its cells. -/
def toJson (table : Table) : Json :=
  .object [("columns", .list (table.names.map .text)),
    ("rows", .list (table.rows.map fun row =>
      .list (.int row.label :: row.cells.map Cell.toJson)))]

/-- The cells at a place of every row. -/
def cellsAt (table : Table) (place : Nat) : List Cell :=
  table.rows.map fun row => row.cells.getD place (.datum .null)

/-- All places of columns with a name. -/
def places (table : Table) (name : String) : List Nat :=
  (table.names.zipIdx.filter fun entry => entry.1 = name).map (·.2)

/-- The place of the one column with a name. -/
def place (table : Table) (name : String) : Except Failure Nat :=
  match table.places name with
  | [] => .error (.table .missingColumn)
  | [place] => .ok place
  | _ => .error (.table .ambiguousColumn)

def kindAt (table : Table) (place : Nat) : Column.Kind :=
  ((table.fields[place]?).map (·.2)).getD .mixed

/-- New contents for the column at a place. -/
def setColumn (table : Table) (place : Nat) (kind : Column.Kind) (cells : List Cell) : Table where
  fields := table.fields.modify place fun field => (field.1, kind)
  rows := List.zipWith (fun row cell => { row with cells := row.cells.set place cell })
    table.rows cells

/-- A new first column with one text in every row. -/
def insertFirst (table : Table) (name : String) (value : Json) : Table where
  fields := (name, .text) :: table.fields
  rows := table.rows.map fun row => { row with cells := .datum value :: row.cells }

/-- The rows whose cell at a place passes a test. -/
def keep (table : Table) (place : Nat) (test : Cell → Bool) : Table :=
  { table with rows := table.rows.filter fun row => test (row.cells.getD place (.datum .null)) }

/-- The rows with a flag that is set. -/
def keepFlagged (table : Table) (flags : List Bool) : Table :=
  { table with rows := ((table.rows.zip flags).filter (·.2)).map (·.1) }

/-- The table without the cells at a place whose flag is not set.  Whole numbers become binary64
numbers if one of them goes missing. -/
def mask (table : Table) (place : Nat) (flags : List Bool) : Table :=
  let masked {α : Type} (missing : α) (values : List α) : List α :=
    List.zipWith (fun value flag => if flag then value else missing) values flags
  let cells := table.cellsAt place
  if flags.all id then table
  else
    match table.kindAt place with
    | .instants fine => table.setColumn place (.instants fine) (masked (.instant none) cells)
    | .naiveInstants => table.setColumn place .naiveInstants (masked (.instant none) cells)
    | kind =>
      let values := masked .null (cells.map Cell.raw)
      table.setColumn place kind.withGaps ((Column.settle kind.withGaps values).map .datum)

/-- The columns at some places, in that order. -/
def project (table : Table) (places : List Nat) : Table where
  fields := places.filterMap fun place => table.fields[place]?
  rows := table.rows.map fun row =>
    { row with cells := places.map fun place => row.cells.getD place (.datum .null) }

/-- The number of cells in the longest row. -/
def width (rows : List (List Json)) : Nat := (rows.map List.length).foldl max 0

/-- A table of raw rows, labelled from zero, the longest of which has a cell in every column.
Each column gets the kind its cells give it. -/
def ofRows (names : List String) (rows : List (List Json)) : Except Failure Table :=
  if rows.isEmpty || width rows = names.length then
    let columns := names.zipIdx.map fun (_, place) =>
      Column.ofCells (rows.map fun (row : List Json) => row.getD place .null)
    .ok {
      fields := names.zip (columns.map (·.1))
      rows := rows.zipIdx.map fun (_, label) =>
        { label := label, cells := columns.map fun column => .datum (column.2.getD label .null) } }
  else .error (.table .unevenRows)

end Table

end AirQuality
