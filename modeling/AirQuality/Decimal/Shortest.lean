import AirQuality.Decimal.Binary64

/-!
# The shortest decimal that reads back

Every decimal strictly inside the rounding interval of a binary64 number reads back as that
number; the ends do so when the mantissa is even.  For one digit, two digits and so on, the
two neighbours of the number on that decimal grid are tried, and the first grid with a hit
gives the digits.  Seventeen digits always suffice.
-/

namespace AirQuality.Decimal

/-- How many decimal digits a natural number has; zero has none. -/
def digitCount (n : Nat) : Nat := if n = 0 then 0 else (Nat.toDigits 10 n).length

/-- The exponent of the leading decimal digit of `num / den`, for a positive fraction. -/
def decade (num den : Nat) : Int :=
  if den ≤ num then digitCount (num / den) - 1 else -(digitCount ((den - 1) / num) : Int)

/-- `significand * 10 ^ exponent` -/
structure Scientific where
  significand : Nat
  exponent : Int
deriving DecidableEq

/-- A fraction of naturals that stands for `count * 2 ^ exponent`. -/
def binaryFraction (count : Nat) (exponent : Int) : Nat × Nat :=
  if 0 ≤ exponent then (count * twoTo exponent.toNat, 1) else (count, twoTo (-exponent).toNat)

/-- `count * 10 ^ exponent` as a fraction of naturals. -/
def decimalFraction (count : Nat) (exponent : Int) : Nat × Nat :=
  if 0 ≤ exponent then (count * tenTo exponent.toNat, 1) else (count, tenTo (-exponent).toNat)

/-- The rounding interval of `mantissa * 2 ^ exponent`, in quarters of the last place. -/
structure Interval where
  low : Nat
  middle : Nat
  high : Nat
  exponent : Int
  closed : Bool

/-- Below a power of two the gap is half as wide, save at the smallest exponent. -/
def roundingInterval (mantissa : Nat) (exponent : Int) : Interval where
  low := 4 * mantissa - (if mantissa = hiddenWeight ∧ exponent ≠ -1074 then 1 else 2)
  middle := 4 * mantissa
  high := 4 * mantissa + 2
  exponent := exponent - 2
  closed := mantissa % 2 == 0

/-- Whether `digits * 10 ^ grid` lies in the interval. -/
def Interval.contains (interval : Interval) (digits : Nat) (grid : Int) : Bool :=
  let (num, den) := decimalFraction digits grid
  let (lowNum, unit) := binaryFraction interval.low interval.exponent
  let highNum := (binaryFraction interval.high interval.exponent).1
  if interval.closed then lowNum * den ≤ num * unit && num * unit ≤ highNum * den
  else lowNum * den < num * unit && num * unit < highNum * den

/-- Of the two neighbours of the middle on a grid, the nearest one inside the interval; of two
equally near ones the even one. -/
def Interval.hit? (interval : Interval) (grid : Int) : Option Nat :=
  let (num, den) := binaryFraction interval.middle interval.exponent
  let (gridNum, gridDen) := decimalFraction 1 grid
  let scaled := num * gridDen
  let step := den * gridNum
  let below := scaled / step
  let rest := scaled % step
  let above := below + 1
  match interval.contains below grid, interval.contains above grid with
  | true, true =>
    if 2 * rest < step then some below
    else if step < 2 * rest then some above
    else some (if below % 2 = 0 then below else above)
  | true, false => some below
  | false, true => some above
  | false, false => none

/-- The shortest decimal for a positive number `mantissa * 2 ^ exponent`. -/
def shortest (mantissa : Nat) (exponent : Int) : Scientific :=
  let interval := roundingInterval mantissa exponent
  let (num, den) := binaryFraction mantissa exponent
  let lead := decade num den
  let found := (List.range 17).findSome? fun (more : Nat) =>
    let grid : Int := lead - more
    (interval.hit? grid).map fun digits => { significand := digits, exponent := grid }
  found.getD { significand := mantissa, exponent := 0 }

end AirQuality.Decimal
