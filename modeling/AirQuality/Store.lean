import AirQuality.Store.Rows
import AirQuality.Time.Span
import AirQuality.Watched

/-!
# The store

The store keeps stations, parameters and measurements from one day to the next.  Whatever is
done to it is done to one kind of record at a time, and a step that fails leaves that kind as
it was.  Old measurements are purged after a while.
-/

namespace AirQuality

open Decimal (Number)
open Time (Moment)

structure Store where
  stations : List Store.StationRecord
  parameters : List Store.ParameterRecord
  measurements : List Store.MeasurementRecord

namespace Store

def empty : Store := ⟨[], [], []⟩

/-- Where a store lies: in a file or at an address, and not in both. -/
inductive Location where
  | file (path : String)
  | address (url : String)
deriving DecidableEq

def Location.of (file url : Option String) : Except Failure Location :=
  match file, url with
  | none, none => .error (.argument .noDatabase)
  | some _, some _ => .error (.argument .twoDatabases)
  | some path, none => .ok (.file path)
  | none, some url => .ok (.address url)

/-- The place of a kind of record in the store. -/
class Shelf (ρ : Type) extends Record ρ where
  rows : Store → List ρ
  setRows : List ρ → Store → Store

instance : Shelf StationRecord where
  rows := stations
  setRows rows store := { store with stations := rows }

instance : Shelf ParameterRecord where
  rows := parameters
  setRows rows store := { store with parameters := rows }

instance : Shelf MeasurementRecord where
  rows := measurements
  setRows rows store := { store with measurements := rows }

/-- A step that changes the store. -/
abbrev Storing := ExceptT Failure (StateM Store)

variable {ρ : Type} [Shelf ρ]

/-- Saves a record, and gives back the row as which it is kept. -/
def save (now : Moment) (record : ρ) : Storing ρ := fun store =>
  match Rows.save now record (Shelf.rows store) with
  | .ok (row, rows) => (.ok row, Shelf.setRows rows store)
  | .error failure => (.error failure, store)

/-- Saves several records or none of them, and says how many they are. -/
def saveAll (now : Moment) (records : List ρ) : Storing Nat := fun store =>
  match Rows.saveAll now records (Shelf.rows store) with
  | .ok rows => (.ok records.length, Shelf.setRows rows store)
  | .error failure => (.error failure, store)

/-- Deletes the rows of a kind that are older than a cutoff, and says how many they are. -/
def deleteOlderThan (ρ : Type) [Shelf ρ] (cutoff : Moment) : Storing Nat := fun store =>
  match onNaiveUtc cutoff with
  | .error failure => (.error failure, store)
  | .ok cutoff =>
    let (stale, fresh) := Rows.split cutoff (Shelf.rows store : List ρ)
    (.ok stale.length, Shelf.setRows fresh store)

/-! ### Purging -/

/-- How many days measurements are kept unless someone says otherwise. -/
def defaultRetention : Number := .whole 30

def purgeText (count : Nat) (cutoff : Moment) : String :=
  s!"Purged {count} measurements older than {cutoff.iso}"

/-- Deletes the measurements older than so many days, and says how many they are. -/
def purge {m : Type → Type} [Monad m] [Watched m] (now : Moment) (retention : Number)
    (store : Store) : m (Except Failure Nat × Store) :=
  match now.daysBefore retention with
  | .error failure => pure (.error failure, store)
  | .ok cutoff => do
    let (outcome, store) := deleteOlderThan MeasurementRecord cutoff store
    match outcome with
    | .ok count => Watched.info .storage (purgeText count cutoff)
    | .error _ => pure ()
    pure (outcome, store)

end Store

end AirQuality
