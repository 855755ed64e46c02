import AirQuality.Measurement
import AirQuality.Parameter
import AirQuality.Station

/-!
# Sources

What every source of data offers: its stations, the parameters of a station, and the
measurements of a parameter.  Each of the three may fail and has whatever effects the monad of
the source gives it.
-/

namespace AirQuality

/-- A request for measurements; without a canonical key the source finds it out. -/
structure Query where
  stationId : String
  parameterId : String
  limits : Limits
  parameterKey : Option String

structure Source (m : Type → Type) where
  name : String
  stations : ExceptT Failure m (List Station)
  parameters : (stationId : String) → ExceptT Failure m (List Parameter)
  measurements : Query → ExceptT Failure m (List Measurement)

/-- A source whose effects are carried over to another monad. -/
def Source.map {m n : Type → Type} (carry : ∀ {α : Type}, ExceptT Failure m α → ExceptT Failure n α)
    (source : Source m) : Source n where
  name := source.name
  stations := carry source.stations
  parameters stationId := carry (source.parameters stationId)
  measurements query := carry (source.measurements query)

end AirQuality
