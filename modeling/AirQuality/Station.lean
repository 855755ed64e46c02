import AirQuality.Coordinate
import AirQuality.Json.Loose

/-!
# Stations

A monitoring station, or a point of a model, as a source lists it.  Its name and position are
what the source gave, which may be nothing.
-/

namespace AirQuality

structure Station where
  id : String
  displayName : Json
  latitude : Json
  longitude : Json
  source : String

namespace Station

/-- A station as it is listed, without its parameters. -/
def toJson (station : Station) : Json :=
  .object [("id", .text station.id), ("display_name", station.displayName),
    ("latitude", station.latitude), ("longitude", station.longitude),
    ("source_system", .text station.source), ("parameters", .list [])]

/-- Reads a station; without a source of its own it is one of the source given. -/
def ofJson (source : String) (row : Json) : Station :=
  ⟨row.textAt "id", row.get "display_name", row.get "latitude", row.get "longitude",
    row.textOr "source_system" source⟩

def position (station : Station) : Coordinate := ⟨station.latitude, station.longitude⟩

end Station

end AirQuality
