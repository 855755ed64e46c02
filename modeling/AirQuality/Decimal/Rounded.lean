import AirQuality.Decimal.Shortest

/-!
# Rounding to a number of digits

A quotient of naturals is rounded to the nearest natural, a half to the even neighbour or up.
Fixed places and significant digits are both roundings of such a quotient.
-/

namespace AirQuality.Decimal

/-- `num / den` rounded to the nearest natural, a half going to the even neighbour. -/
def roundDiv (num den : Nat) : Nat :=
  let below := num / den
  let twice := 2 * (num % den)
  if twice < den then below
  else if den < twice then below + 1
  else if below % 2 = 0 then below else below + 1

/-- Rounding moves a quotient by at most a half. -/
theorem roundDiv_near (num den : Nat) (h : 0 < den) :
    2 * num ≤ (2 * roundDiv num den + 1) * den ∧ 2 * roundDiv num den * den ≤ 2 * num + den := by
  have split : num / den * den + num % den = num := by
    rw [Nat.mul_comm]
    exact Nat.div_add_mod num den
  have small := Nat.mod_lt num h
  unfold roundDiv
  dsimp only
  generalize num % den = rest at *
  repeat' split
  all_goals simp only [Nat.add_mul, Nat.mul_add, Nat.mul_assoc, Nat.one_mul, Nat.mul_one]
  all_goals generalize num / den * den = floor at *
  all_goals omega

/-- `num / den` rounded to the nearest natural, a half going up. -/
def roundDivUp (num den : Nat) : Nat := (2 * num + den) / (2 * den)

/-- A positive fraction to `count` significant digits, each quotient rounded by `round`. -/
def toDigitsBy (round : Nat → Nat → Nat) (count num den : Nat) : Scientific :=
  let lead := decade num den
  let grid := lead - (count - 1 : Int)
  let (gridNum, gridDen) := decimalFraction 1 grid
  let rounded := round (num * gridDen) (den * gridNum)
  if rounded = tenTo count then { significand := tenTo (count - 1), exponent := grid + 1 }
  else { significand := rounded, exponent := grid }

/-- A positive fraction to `count` significant digits. -/
def toDigits : (count num den : Nat) → Scientific := toDigitsBy roundDiv

/-- The nearest binary64 number to a decimal.  Far beyond the range the answer is known
without raising ten to the exponent. -/
def ofScientific (negative : Bool) (decimal : Scientific) : Float :=
  let size := digitCount decimal.significand + decimal.exponent
  let magnitude : Float :=
    if decimal.significand = 0 ∨ size < -330 then 0
    else if 310 < size then positiveInfinity
    else Float.ofScientific decimal.significand (decimal.exponent < 0) decimal.exponent.natAbs
  if negative then -magnitude else magnitude

/-- A finite number to `count` significant digits, as the nearest binary64 number to those. -/
def toSignificant (count : Nat) (x : Float) : Float :=
  match parts x with
  | .finite negative mantissa exponent =>
    if mantissa = 0 then x
    else
      let (num, den) := binaryFraction mantissa exponent
      ofScientific negative (toDigits count num den)
  | _ => x

end AirQuality.Decimal
