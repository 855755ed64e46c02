import AirQuality.Json.Access

/-!
# Coordinates

A position as providers give it: two values that ought to be numbers.  Latitudes lie
between -90 and 90 degrees and longitudes between -180 and 180, both ends included.  Anything
else that looks like a number is an invalid coordinate, and so is a missing value.
-/

namespace AirQuality

structure Coordinate where
  latitude : Json
  longitude : Json

namespace Coordinate

open Decimal (Number)

/-- A value as a number, where only numbers can be compared. -/
def asNumber (value : Json) : Except Failure Number :=
  match value.asNumber? with
  | some number => .ok number
  | none => .error (.shape .notComparable)

/-- Whether a value lies between two bounds, both included. -/
def isWithin (low high : Number) (value : Json) : Except Failure Bool := do
  let number ← asNumber value
  pure (low.le number && number.le high)

/-- Whether a value is not a number at all; a whole number has to be within reach of the
binary64 numbers. -/
def isNaN (value : Json) : Except Failure Bool := do
  let number ← asNumber value
  if number.isTooLarge then .error (.number .integerTooLarge) else pure number.isNaN

def invalid (coordinate : Coordinate) : Failure :=
  .invalidCoordinate coordinate.latitude coordinate.longitude

/-- Accepts the positions on the globe. -/
def check (coordinate : Coordinate) : Except Failure Unit := do
  if coordinate.latitude.kind = .null ∨ coordinate.longitude.kind = .null then
    .error coordinate.invalid
  else if ← isNaN coordinate.latitude then .error coordinate.invalid
  else if ← isNaN coordinate.longitude then .error coordinate.invalid
  else
    let northward ← isWithin (.whole (-90)) (.whole 90) coordinate.latitude
    let eastward ← isWithin (.whole (-180)) (.whole 180) coordinate.longitude
    if northward && eastward then pure () else .error coordinate.invalid

/-- Whether a position is on the globe; what cannot be compared is not. -/
def isValid (coordinate : Coordinate) : Except Failure Bool :=
  match coordinate.check with
  | .ok () => .ok true
  | .error (.invalidCoordinate ..) | .error (.shape _) => .ok false
  | .error failure => .error failure

end Coordinate

end AirQuality
