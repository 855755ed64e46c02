import AirQuality.CanonicalKey
import AirQuality.Json.Loose

/-!
# Parameters

A pollutant or a quantity of the weather that a source reports for a station.  Its id serves to
ask for readings, and the name its source uses decides its canonical key.
-/

namespace AirQuality

structure Parameter where
  id : String
  rawName : Json
  displayName : Json
  unit : Json
  description : Json
  source : String

namespace Parameter

/-- The key under which the readings of a parameter are grouped. -/
def canonicalKey (parameter : Parameter) : Except Failure String :=
  CanonicalKey.ofJson parameter.rawName

/-- A parameter with its canonical key. -/
def toJson (parameter : Parameter) : Except Failure Json := do
  let key ← parameter.canonicalKey
  pure (.object [("parameter_id", .text parameter.id), ("raw_name", parameter.rawName),
    ("display_name", parameter.displayName), ("unit", parameter.unit),
    ("description", parameter.description), ("source_system", .text parameter.source),
    ("canonical_key", .text key)])

/-- Reads a parameter; without a source of its own it is one of the source given. -/
def ofJson (source : String) (row : Json) : Parameter :=
  ⟨row.textAt "parameter_id", row.get "raw_name", row.get "display_name", row.get "unit",
    row.get "description", row.textOr "source_system" source⟩

end Parameter

end AirQuality
