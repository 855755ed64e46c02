import AirQuality.Decimal.Layout

/-!
# Numbers of either kind

A bound, a limit or a coordinate is a whole number of any size or a binary64 number.  Numbers
of different kinds compare by their exact values.
-/

namespace AirQuality.Decimal

inductive Number where
  | whole (value : Int)
  | real (value : Float)
deriving DecidableEq, Inhabited

namespace Number

/-- How two numbers compare; none if one of them is not a number. -/
def compare? : Number → Number → Option Ordering
  | .whole a, .whole b => some (compare a b)
  | .real x, .real y =>
    match rank? x, rank? y with
    | some a, some b => some (compare a b)
    | _, _ => none
  | .real x, .whole n => realWithWhole x n
  | .whole n, .real x => (realWithWhole x n).map Ordering.swap
where
  realWithWhole (x : Float) (n : Int) : Option Ordering :=
    match parts x with
    | .notANumber => none
    | .infinite negative => some (if negative then .lt else .gt)
    | .finite negative mantissa exponent => some (compareInt negative mantissa exponent n)

def le (a b : Number) : Bool := (compare? a b).any (· != .gt)

def lt (a b : Number) : Bool := (compare? a b).any (· == .lt)

def isNaN : Number → Bool
  | .whole _ => false
  | .real x => Decimal.isNaN x

/-- Whether a whole number is too large for any binary64 number. -/
def isTooLarge : Number → Bool
  | .whole n => (ofInt? n).isNone
  | .real _ => false

/-- The number as a binary64 number, unless it is too large. -/
def toReal? : Number → Option Float
  | .whole n => ofInt? n
  | .real x => some x

/-- The sum of two numbers, which is whole if both are. -/
def add? : Number → Number → Option Number
  | .whole a, .whole b => some (.whole (a + b))
  | a, b => do some (.real ((← a.toReal?) + (← b.toReal?)))

/-- The sum of numbers from the first to the last. -/
def sum? : List Number → Option Number
  | [] => some (.whole 0)
  | first :: rest => rest.foldlM add? first

def text : Number → List Char
  | .whole n => intText n
  | .real x => floatText x

end Number

end AirQuality.Decimal
