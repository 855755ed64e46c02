import AirQuality.Coordinate
import AirQuality.Text.Blank
import AirQuality.Text.Case
import AirQuality.Text.Search

/-!
# Regions

A region is a box of latitudes and longitudes under a name.  Boxes may overlap: a position
belongs to the first region of a table whose box contains it.  Names are looked up without
regard to capitals, with underscores for hyphens and with blanks around them.
-/

namespace AirQuality

open Decimal (Number)

structure Region where
  name : String
  south : Number
  north : Number
  west : Number
  east : Number
deriving DecidableEq, Inhabited

namespace Region

def toJson (region : Region) : Json :=
  .object [("name", .text region.name), ("min_lat", .ofNumber region.south),
    ("max_lat", .ofNumber region.north), ("min_lon", .ofNumber region.west),
    ("max_lon", .ofNumber region.east)]

/-- Whether the box contains a position, its edges included.  The longitude is looked at only
if the latitude fits. -/
def contains (region : Region) (position : Coordinate) : Except Failure Bool := do
  if ← Coordinate.isWithin region.south region.north position.latitude then
    Coordinate.isWithin region.west region.east position.longitude
  else pure false

/-- Whether a position on the globe is in the region. -/
def holds (region : Region) (position : Coordinate) : Except Failure Bool := do
  position.check
  region.contains position

/-- The first region of a table whose box contains a position. -/
def firstContaining (position : Coordinate) : List Region → Except Failure (Option Region)
  | [] => .ok none
  | region :: rest => do
    if ← region.contains position then pure (some region) else firstContaining position rest

/-- The region a position on the globe belongs to. -/
def classify (position : Coordinate) (table : List Region) : Except Failure (Option Region) := do
  position.check
  firstContaining position table

/-- The form in which names are compared. -/
def identifier (name : String) : List Char :=
  Text.replaceChar '_' '-' (Text.lower (Text.strip name.toList))

def names (table : List Region) : List String := table.map (·.name)

/-- The first region with a name. -/
def find (name : String) (table : List Region) : Except Failure Region :=
  match table.find? fun region => identifier region.name = identifier name with
  | some region => .ok region
  | none => .error (.unknownRegion name (names table))

/-! ### The built-in table -/

/-- A bound in tenths of a degree. -/
def tenths (value : Nat) : Number := .real (Float.ofScientific value true 1)

/-- The Polish voivodeships in alphabetical order. -/
def voivodeships : List Region :=
  [⟨"dolnoslaskie", tenths 500, tenths 518, tenths 150, tenths 178⟩,
    ⟨"kujawsko-pomorskie", tenths 520, tenths 538, tenths 170, tenths 198⟩,
    ⟨"lubelskie", tenths 502, tenths 516, tenths 218, tenths 241⟩,
    ⟨"lubuskie", tenths 512, tenths 529, tenths 141, tenths 162⟩,
    ⟨"lodzkie", tenths 510, tenths 525, tenths 182, tenths 206⟩,
    ⟨"malopolskie", tenths 491, tenths 508, tenths 188, tenths 213⟩,
    ⟨"mazowieckie", tenths 514, tenths 534, tenths 191, tenths 229⟩,
    ⟨"opolskie", tenths 500, tenths 511, tenths 170, tenths 189⟩,
    ⟨"podkarpackie", tenths 490, tenths 509, tenths 210, tenths 230⟩,
    ⟨"podlaskie", tenths 525, tenths 544, tenths 221, tenths 242⟩,
    ⟨"pomorskie", tenths 534, tenths 548, tenths 168, tenths 193⟩,
    ⟨"slaskie", tenths 498, tenths 508, tenths 184, tenths 198⟩,
    ⟨"swietokrzyskie", tenths 501, tenths 511, tenths 197, tenths 215⟩,
    ⟨"warminsko-mazurskie", tenths 532, tenths 544, tenths 193, tenths 226⟩,
    ⟨"wielkopolskie", tenths 512, tenths 531, tenths 156, tenths 189⟩,
    ⟨"zachodniopomorskie", tenths 527, tenths 549, tenths 141, tenths 168⟩]

end Region

end AirQuality
