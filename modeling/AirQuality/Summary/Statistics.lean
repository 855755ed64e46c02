import AirQuality.Decimal.Binary64

/-!
# Statistics of values

The mean, the extremes and the number of some values, among which those that are not numbers
do not count.  The sum behind the mean carries along what rounding has lost so far.
-/

namespace AirQuality.Statistics

open Decimal (isFinite isNaN lt notANumber)

/-- The values that are numbers. -/
def numbers (values : List Float) : List Float := values.filter fun value => !isNaN value

/-- The first of the smallest numbers. -/
def least? : List Float → Option Float
  | [] => none
  | value :: rest =>
    if isNaN value then least? rest
    else
      match least? rest with
      | none => some value
      | some other => if lt other value then some other else some value

/-- The first of the greatest numbers. -/
def greatest? : List Float → Option Float
  | [] => none
  | value :: rest =>
    if isNaN value then greatest? rest
    else
      match greatest? rest with
      | none => some value
      | some other => if lt value other then some other else some value

/-- A sum and what rounding has added to it. -/
structure Sum where
  total : Float
  excess : Float

namespace Sum

def zero : Sum := ⟨0, 0⟩

/-- Adds a number.  Once the sum is infinite its excess says nothing and is dropped. -/
def add (sum : Sum) (value : Float) : Sum :=
  let corrected := value - sum.excess
  let total := sum.total + corrected
  let excess := total - sum.total - corrected
  ⟨total, if isFinite excess then excess else 0⟩

end Sum

def sum (values : List Float) : Float := ((numbers values).foldl Sum.add Sum.zero).total

/-- The mean of the numbers, which is not a number if there are none. -/
def mean (values : List Float) : Float :=
  match (numbers values).length with
  | 0 => notANumber
  | count => sum values / Float.ofNat count

def least (values : List Float) : Float := (least? values).getD notANumber

def greatest (values : List Float) : Float := (greatest? values).getD notANumber

end AirQuality.Statistics
