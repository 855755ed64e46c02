import AirQuality.Decimal.Binary64

/-!
# Zeros and whole numbers in binary64

Every value but those that are not numbers has a place among the others.  Both zeros are finite and
become one when the sign of a zero is dropped.  A whole number that 64 bits hold, with a sign or
without, has a nearest binary64 number.
-/

namespace AirQuality.Decimal

theorem isNaN_eq_isNone (value : Float) : isNaN value = (rank? value).isNone := by
  unfold isNaN rank?
  cases parts value with
  | notANumber => rfl
  | infinite negative => rfl
  | finite negative mantissa exponent => rfl

theorem isNaN_of_isFinite {value : Float} (hfinite : isFinite value = true) :
    isNaN value = false := by
  unfold isFinite at hfinite
  unfold isNaN
  cases hparts : parts value with
  | notANumber =>
      rw [hparts] at hfinite
      cases hfinite
  | infinite negative => rfl
  | finite negative mantissa exponent => rfl

/-- Only the two zeros equal zero. -/
theorem toBits_of_equal_zero {value : Float} (hzero : equal value 0 = true) :
    value.toBits.toNat = 0 ∨ value.toBits.toNat = signWeight := by
  have hplace : rank? 0 = some 0 := by decide
  have hrank : rank? value = some 0 := by
    cases hvalue : rank? value with
    | none => simp [equal, hvalue] at hzero
    | some place => simpa [equal, hvalue, hplace] using hzero
  have hbits : (if value.toBits.toNat < signWeight then (value.toBits.toNat : Int)
      else -(value.toBits.toNat - signWeight : Int)) = 0 := by
    unfold rank? at hrank
    split at hrank
    · cases hrank
    · simpa using hrank
  split at hbits <;> omega

theorem isFinite_of_equal_zero {value : Float} (hzero : equal value 0 = true) :
    isFinite value = true := by
  unfold isFinite parts
  cases toBits_of_equal_zero hzero with
  | inl hbits =>
      rw [hbits]
      decide
  | inr hbits =>
      rw [hbits]
      decide

theorem isFinite_oneZero (value : Float) : isFinite (oneZero value) = isFinite value := by
  unfold oneZero
  split
  case isTrue hzero =>
    rw [isFinite_of_equal_zero hzero]
    decide
  case isFalse => rfl

@[simp]
theorem oneZero_oneZero (value : Float) : oneZero (oneZero value) = oneZero value := by
  by_cases hzero : equal value 0 = true
  · simp [oneZero, hzero]
  · simp [oneZero, hzero]

theorem ofInt?_of_natAbs_le {number : Int} (hsize : number.natAbs ≤ 2 * signWeight) :
    ofInt? number = some (Float.ofInt number) := by
  have hbound : 2 * signWeight < overflowBound := by decide +kernel
  exact if_pos (Nat.lt_of_le_of_lt hsize hbound)

end AirQuality.Decimal
