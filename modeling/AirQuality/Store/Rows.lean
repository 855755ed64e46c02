import AirQuality.Store.Record

/-!
# Rows

The rows of one kind of record, of which no two have the same key.  Saving a record puts it in
the place of the row with its key, or at the end.  Several records are saved all together or,
if one of them is refused, not at all.
-/

namespace AirQuality.Store.Rows

open Time (Moment)

variable {ρ : Type} [Record ρ]

/-- The row with a key. -/
def find? (key : String) (rows : List ρ) : Option ρ :=
  rows.find? fun row => Record.key row = key

/-- A row in the place of the one with its key, or at the end. -/
def put (row : ρ) : List ρ → List ρ
  | [] => [row]
  | other :: rest =>
    if Record.key other = Record.key row then row :: rest else other :: put row rest

/-- The record that comes into the place of a row with its key, if there is one. -/
def merged (now : Moment) (record : ρ) (rows : List ρ) : ρ :=
  match find? (Record.key record) rows with
  | some old => Record.replacing now old record
  | none => record

/-- Saves a record, and gives back the row as which it is kept. -/
def save (now : Moment) (record : ρ) (rows : List ρ) : Except Failure (ρ × List ρ) := do
  let row ← Record.kept (merged now record rows)
  pure (row, put row rows)

/-- Saves several records in turn. -/
def saveAll (now : Moment) : List ρ → List ρ → Except Failure (List ρ)
  | [], rows => .ok rows
  | record :: rest, rows => do
    let (_, rows) ← save now record rows
    saveAll now rest rows

/-- The rows in the order of their keys. -/
def inOrder (rows : List ρ) : List ρ :=
  rows.mergeSort fun first second => Record.key first ≤ Record.key second

def keys (rows : List ρ) : List String := (inOrder rows).map Record.key

/-- Whether a row is older than a cutoff on UTC. -/
def isStale (cutoff : Moment) (row : ρ) : Bool := (Record.age row).instant < cutoff.instant

/-- The rows that are older than a cutoff, and the others. -/
def split (cutoff : Moment) (rows : List ρ) : List ρ × List ρ := rows.partition (isStale cutoff)

end AirQuality.Store.Rows
