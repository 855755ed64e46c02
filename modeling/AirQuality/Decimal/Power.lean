/-!
# Powers

Powers of two and of ten, and the powers of two in the layout of a binary64 number.
-/

namespace AirQuality.Decimal

def twoTo (exponent : Nat) : Nat := Nat.pow 2 exponent

def tenTo (exponent : Nat) : Nat := Nat.pow 10 exponent

/-- The weight of the sign bit, 2 to the power of 63. -/
abbrev signWeight : Nat := 0x8000000000000000

/-- The weight of the bit before the fraction, 2 to the power of 52. -/
abbrev hiddenWeight : Nat := 0x10000000000000

end AirQuality.Decimal
