import AirQuality.Log
import AirQuality.Region
import AirQuality.TextFile

/-!
# Region tables in files

A region table is a JSON list of objects with a name and four bounds, which may be numbers or
texts that stand for numbers.  The order in the file is the order in which regions are tried.
A box whose bounds are the wrong way round is refused.
-/

namespace AirQuality.Region

/-- The region an entry describes. -/
def ofEntry (entry : Json) : Except Failure Region := do
  let name ← entry.field "name"
  let south ← (← entry.field "min_lat").toFloat
  let north ← (← entry.field "max_lat").toFloat
  let west ← (← entry.field "min_lon").toFloat
  let east ← (← entry.field "max_lon").toFloat
  pure ⟨name.display, .real south, .real north, .real west, .real east⟩

/-- A box with a southern bound above the northern one or a western bound beyond the eastern. -/
def isInverted (region : Region) : Bool :=
  region.north.lt region.south || region.east.lt region.west

def readEntry (entry : Json) : Except Failure Region := do
  let region ← TextFile.inEntry (.invalidRegion entry) (ofEntry entry)
  if region.isInverted then .error (.argument (.invertedRegion region.name)) else pure region

def ofFile (file : TextFile) (room : Nat := Json.maxRoom) : Except Failure (List Region) := do
  match ← file.readJson .unreadableRegions room with
  | .list entries => entries.mapM readEntry
  | _ => .error (.argument (.regionsNotAList file.path))

/-- Reads a table and says so. -/
def load (file : TextFile) (room : Nat := Json.maxRoom) : Logged (List Region) := do
  let table ← Logged.lift (ofFile file room)
  Logged.note ⟨.info, .regions, s!"Loaded {table.length} regions from {file.path}"⟩
  pure table

end AirQuality.Region
