import AirQuality.Source

/-!
# Contributions

What a source contributes to a report: the measurements of one parameter at one station.
Contributions are grouped by the canonical keys of their parameters.
-/

namespace AirQuality

structure Contribution where
  station : Station
  parameter : Parameter
  measurements : List Measurement

namespace Contribution

/-- Contributions under their canonical keys. -/
def keyed (contributions : List Contribution) : Except Failure (List (String × Contribution)) :=
  contributions.mapM fun contribution => do
    pure (← contribution.parameter.canonicalKey, contribution)

/-- All measurements, in order. -/
def measurementsOf (contributions : List Contribution) : List Measurement :=
  contributions.flatMap (·.measurements)

/-- The first occurrence of each text. -/
def distinct : List String → List String
  | [] => []
  | text :: rest => text :: (distinct rest).filter (· ≠ text)

/-- The keys that have measurements, in the order of their first measurement. -/
def keys (keyed : List (String × Contribution)) : List String :=
  distinct ((keyed.filter fun entry => !entry.2.measurements.isEmpty).map (·.1))

/-- The contributions under a key. -/
def under (key : String) (keyed : List (String × Contribution)) : List Contribution :=
  (keyed.filter fun entry => entry.1 = key).map (·.2)

end Contribution

end AirQuality
