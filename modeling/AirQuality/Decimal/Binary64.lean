import AirQuality.Decimal.Power

/-!
# Binary64 numbers taken apart

A binary64 number is not a number, infinite, or an integer times a power of two.  The order
of two numbers is the order of the integers `rank?` assigns to them, in which both zeros
share a place and a value that is not a number has none.
-/

namespace AirQuality.Decimal

inductive Parts where
  | notANumber
  | infinite (negative : Bool)
  | finite (negative : Bool) (mantissa : Nat) (exponent : Int)
deriving DecidableEq

/-- The value is `mantissa * 2 ^ exponent`, negated if `negative`. -/
def partsOfBits (bits : Nat) : Parts :=
  let negative := bits / signWeight == 1
  let field : Nat := bits / hiddenWeight % 2048
  let fraction : Nat := bits % hiddenWeight
  if field = 2047 then
    if fraction = 0 then .infinite negative else .notANumber
  else if field = 0 then .finite negative fraction (-1074)
  else .finite negative (fraction + hiddenWeight) ((field : Int) - 1075)

def parts (x : Float) : Parts := partsOfBits x.toBits.toNat

def isNaN (x : Float) : Bool :=
  match parts x with
  | .notANumber => true
  | _ => false

def isFinite (x : Float) : Bool :=
  match parts x with
  | .finite .. => true
  | _ => false

/-- The place of a number among all numbers, or none for a value that is not a number. -/
def rank? (x : Float) : Option Int :=
  match parts x with
  | .notANumber => none
  | _ =>
    let bits := x.toBits.toNat
    some (if bits < signWeight then bits else -(bits - signWeight : Int))

def lt (x y : Float) : Bool :=
  match rank? x, rank? y with
  | some a, some b => a < b
  | _, _ => false

def le (x y : Float) : Bool :=
  match rank? x, rank? y with
  | some a, some b => a ≤ b
  | _, _ => false

def equal (x y : Float) : Bool :=
  match rank? x, rank? y with
  | some a, some b => a == b
  | _, _ => false

/-- A number without the sign of its zero. -/
def oneZero (value : Float) : Float := if equal value 0 then 0 else value

/-- An integer times a power of two, without its fraction. -/
def shiftInteger (value : Nat) (exponent : Int) : Nat :=
  if 0 ≤ exponent then value * twoTo exponent.toNat else value / twoTo (-exponent).toNat

/-- The integer part of a finite number. -/
def truncate? (x : Float) : Option Int :=
  match parts x with
  | .finite negative mantissa exponent =>
    let magnitude := shiftInteger mantissa exponent
    some (if negative then -magnitude else magnitude)
  | _ => none

/-- The least integer that is not below a finite number. -/
def ceiling? (x : Float) : Option Int :=
  match parts x with
  | .finite negative mantissa exponent =>
    let signed : Int := if negative then -mantissa else mantissa
    some (if 0 ≤ exponent then signed * twoTo exponent.toNat
      else -(-signed / twoTo (-exponent).toNat))
  | _ => none

/-- Half way from the greatest number to the next power of two, which rounds up. -/
@[irreducible]
def overflowBound : Nat := (twoTo 54 - 1) * twoTo 970

/-- The nearest number to an integer, or none if every number is too small for it. -/
def ofInt? (n : Int) : Option Float :=
  if n.natAbs < overflowBound then some (Float.ofInt n) else none

/-- How a finite number compares with an integer, exactly. -/
def compareInt (negative : Bool) (mantissa : Nat) (exponent n : Int) : Ordering :=
  let signed : Int := if negative then -mantissa else mantissa
  if 0 ≤ exponent then compare (signed * twoTo exponent.toNat) n
  else compare signed (n * twoTo (-exponent).toNat)

def positiveInfinity : Float := Float.ofBits 0x7FF0000000000000

def negativeInfinity : Float := Float.ofBits 0xFFF0000000000000

def notANumber : Float := Float.ofBits 0x7FF8000000000000

end AirQuality.Decimal
