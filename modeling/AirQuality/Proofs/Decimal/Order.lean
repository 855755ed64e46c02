import AirQuality.Decimal.Number
import AirQuality.Proofs.Decimal.Arithmetic
import AirQuality.Proofs.Summary.Statistics

/-!
# The order of numbers

The place of a finite binary64 number among all of them, which its bits give, orders it by its
value, and so does the exact comparison with an integer.  Numbers of either kind are therefore
ordered by what they stand for.
-/

namespace AirQuality.Decimal

open Float.Model (Format UnpackedFloat)
open Float.Model.UnpackedFloat

/-- The number without sign whose bits these are, counted in the least of all. -/
def scaled (bits : ℕ) : ℕ :=
  if bits / hiddenWeight = 0 then bits % hiddenWeight
  else (bits % hiddenWeight + hiddenWeight) * 2 ^ (bits / hiddenWeight - 1)

theorem scaled_lt_succ (bits : ℕ) : scaled bits < scaled (bits + 1) := by
  by_cases hlast : bits % hiddenWeight + 1 = hiddenWeight
  · have hfield : (bits + 1) / hiddenWeight = bits / hiddenWeight + 1 := by
      unfold hiddenWeight at *
      omega
    have hfraction : (bits + 1) % hiddenWeight = 0 := by
      unfold hiddenWeight at *
      omega
    unfold scaled
    rw [hfield, hfraction, if_neg (Nat.succ_ne_zero _), Nat.add_sub_cancel]
    split_ifs with hleast
    · rw [hleast]
      omega
    · obtain ⟨field, hfield⟩ := Nat.exists_eq_succ_of_ne_zero hleast
      rw [hfield, Nat.succ_sub_one, Nat.pow_succ]
      have hunit := Nat.two_pow_pos field
      nlinarith
  · have hfield : (bits + 1) / hiddenWeight = bits / hiddenWeight := by
      unfold hiddenWeight at *
      omega
    have hfraction : (bits + 1) % hiddenWeight = bits % hiddenWeight + 1 := by
      unfold hiddenWeight at *
      omega
    unfold scaled
    rw [hfield, hfraction]
    split_ifs with hleast
    · exact Nat.lt_succ_self _
    · exact Nat.mul_lt_mul_of_pos_right (by omega) (Nat.two_pow_pos _)

theorem scaled_strictMono : StrictMono scaled := strictMono_nat_of_lt_succ scaled_lt_succ

/-- The value of the least number that is not zero. -/
def least : ℚ := 2 ^ (-1074 : ℤ)

theorem least_pos : 0 < least := by
  unfold least
  positivity

theorem unpackedValue_ofFields (sign : Sign) {bits : ℕ} (hfinite : bits / hiddenWeight ≠ 2047) :
    unpackedValue (ofFields sign (bits / hiddenWeight) (bits % hiddenWeight)) =
      sign.apply (scaled bits) * least := by
  unfold ofFields scaled
  generalize bits / hiddenWeight = field at hfinite ⊢
  rw [if_neg hfinite]
  split_ifs with hleast hzero
  · rw [hzero, unpackedValue_zero]
    cases sign <;> simp [Sign.apply]
  · rfl
  · have hscale : (2 : ℚ) ^ ((field : ℤ) - 1075) = (2 ^ (field - 1) : ℕ) * least := by
      rw [show (field : ℤ) - 1075 = (field - 1 : ℕ) + (-1074) by omega, zpow_add₀ two_ne_zero,
        zpow_natCast, Nat.cast_pow, Nat.cast_ofNat, least]
    rw [unpackedValue_finite, hscale]
    cases sign <;> simp only [Sign.apply] <;> push_cast <;> ring

/-- The value at a place, counted in the least number. -/
def scaledPlace (place : ℤ) : ℤ := if 0 ≤ place then scaled place.natAbs else -scaled place.natAbs

theorem scaledPlace_neg (bits : ℕ) : scaledPlace (-bits) = -scaled bits := by
  unfold scaledPlace
  split_ifs with hzero
  · obtain rfl : bits = 0 := by omega
    rfl
  · rw [Int.natAbs_neg, Int.natAbs_natCast]

theorem scaledPlace_strictMono : StrictMono scaledPlace := by
  intro place place' hless
  unfold scaledPlace
  split_ifs with h1 h2 h3
  · exact_mod_cast scaled_strictMono (by omega)
  · omega
  · have := scaled_strictMono (show 0 < place.natAbs by omega)
    omega
  · have := scaled_strictMono (show place'.natAbs < place.natAbs by omega)
    omega

theorem place_eq {x : Float} (hfinite : isFinite x = true) :
    place x = if x.toBits.toNat < signWeight then (x.toBits.toNat : ℤ)
      else -(x.toBits.toNat - signWeight : ℤ) := by
  unfold place rank?
  unfold isFinite at hfinite
  cases hparts : parts x with
  | notANumber => rw [hparts] at hfinite; cases hfinite
  | infinite negative => rw [hparts] at hfinite; cases hfinite
  | finite negative mantissa exponent => rfl

theorem sign_eq (bits : BitVec Format.binary64.numBits) :
    Sign.ofBitVec (@unpackSign Format.binary64 bits) =
      if bits.toNat < signWeight then .positive else .negative := by
  have hpositive : @unpackSign Format.binary64 bits = 0#1 ↔ bits.toNat < signWeight := by
    rw [← BitVec.toNat_inj, toNat_unpackSign]
    exact Nat.div_eq_zero_iff_lt (by decide)
  unfold Sign.ofBitVec
  simp only [hpositive]

/-- The sign, and the bits after it, give the value. -/
theorem exactValue_eq {x : Float} (hfinite : isFinite x = true) :
    exactValue x = (if x.toBits.toNat < signWeight then Sign.positive else Sign.negative).apply
      (scaled (x.toBits.toNat % signWeight)) * least := by
  have hfield : x.toBits.toNat / hiddenWeight % 2048 =
      x.toBits.toNat % signWeight / hiddenWeight := by
    unfold hiddenWeight signWeight
    omega
  have hfraction : x.toBits.toNat % hiddenWeight =
      x.toBits.toNat % signWeight % hiddenWeight := by
    unfold hiddenWeight signWeight
    omega
  have hunpack : x.toModel.unpack = _ := unpack_eq_ofFields x.toBits.toBitVec
  rw [toNat_unpackMantissa, toNat_unpackExponent, sign_eq, UInt64.toNat_toBitVec, hfield,
    hfraction] at hunpack
  have hcanonical := (isFinite_iff_canonical x).mp hfinite
  unfold exactValue
  rw [hunpack] at hcanonical ⊢
  apply unpackedValue_ofFields
  intro hfull
  unfold ofFields at hcanonical
  rw [if_pos hfull] at hcanonical
  split_ifs at hcanonical <;> exact hcanonical

theorem exactValue_eq_scaledPlace {x : Float} (hfinite : isFinite x = true) :
    exactValue x = scaledPlace (place x) * least := by
  have hbits : x.toBits.toNat < signWeight * 2 := x.toBits.toBitVec.isLt
  rw [exactValue_eq hfinite, place_eq hfinite]
  split_ifs with hpositive
  · rw [Nat.mod_eq_of_lt hpositive]
    rfl
  · have hrest : x.toBits.toNat % signWeight = x.toBits.toNat - signWeight := by
      unfold signWeight at *
      omega
    have hplace : -(x.toBits.toNat - signWeight : ℤ) = -(x.toBits.toNat - signWeight : ℕ) := by
      omega
    rw [hrest, hplace, scaledPlace_neg]
    rfl

theorem exactValue_le {x y : Float} (hx : isFinite x = true) (hy : isFinite y = true)
    (hle : place x ≤ place y) : exactValue x ≤ exactValue y := by
  rw [exactValue_eq_scaledPlace hx, exactValue_eq_scaledPlace hy]
  exact mul_le_mul_of_nonneg_right (Int.cast_le.mpr (scaledPlace_strictMono.monotone hle))
    least_pos.le

/-- Two finite numbers of one value are the same, or both are zero. -/
theorem eq_of_exactValue_eq {x y : Float} (hx : isFinite x = true) (hy : isFinite y = true)
    (hvalue : exactValue x = exactValue y) : x = y ∨ exactValue x = 0 := by
  by_cases hzero : place x = 0
  · right
    rw [exactValue_eq_scaledPlace hx, hzero]
    exact zero_mul least
  · left
    rw [exactValue_eq_scaledPlace hx, exactValue_eq_scaledPlace hy,
      mul_left_inj' least_pos.ne', Int.cast_inj] at hvalue
    have hplace := scaledPlace_strictMono.injective hvalue
    rw [place_eq hx] at hzero
    rw [place_eq hx, place_eq hy] at hplace
    have hbits : x.toBits.toNat = y.toBits.toNat := by
      unfold signWeight at *
      split_ifs at hzero hplace <;> omega
    exact Float.toBits_inj.mp (UInt64.toNat_inj.mp hbits)

theorem exists_parts {value : Float} (hfinite : isFinite value = true) :
    ∃ negative mantissa exponent, parts value = .finite negative mantissa exponent := by
  unfold isFinite at hfinite
  cases hparts : parts value with
  | notANumber => rw [hparts] at hfinite; cases hfinite
  | infinite negative => rw [hparts] at hfinite; cases hfinite
  | finite negative mantissa exponent => exact ⟨negative, mantissa, exponent, rfl⟩

/-! ### Comparison with integers -/

section Integer

variable (negative : Bool) (mantissa : ℕ) (exponent number : ℤ)

theorem natCast_twoTo (count : ℕ) : ((twoTo count : ℕ) : ℚ) = 2 ^ count := by
  change ((2 ^ count : ℕ) : ℚ) = 2 ^ count
  push_cast
  rfl

/-- The exact comparison puts either both numbers over one unit or the integer below it. -/
theorem compareInt_eq :
    ∃ first second : ℤ, compareInt negative mantissa exponent number = compare first second ∧
      ∃ unit : ℚ, 0 < unit ∧
        ((if negative then -mantissa else mantissa : ℤ) * 2 ^ exponent : ℚ) = first * unit ∧
        (number : ℚ) = second * unit := by
  unfold compareInt
  by_cases hwhole : 0 ≤ exponent
  · refine ⟨_, _, if_pos hwhole, 1, one_pos, ?_, (mul_one _).symm⟩
    rw [Int.cast_mul, Int.cast_natCast, natCast_twoTo, ← zpow_natCast, Int.toNat_of_nonneg hwhole,
      mul_one]
  · have hunit : (2 : ℚ) ^ (-exponent).toNat * 2 ^ exponent = 1 := by
      rw [← zpow_natCast, Int.toNat_of_nonneg (by omega), ← zpow_add₀ two_ne_zero,
        neg_add_cancel, zpow_zero]
    refine ⟨_, _, if_neg hwhole, 2 ^ exponent, by positivity, rfl, ?_⟩
    rw [Int.cast_mul, Int.cast_natCast, natCast_twoTo, mul_assoc, hunit, mul_one]

theorem compareInt_ne_gt_iff : compareInt negative mantissa exponent number ≠ .gt ↔
    ((if negative then -mantissa else mantissa : ℤ) * 2 ^ exponent : ℚ) ≤ number := by
  obtain ⟨first, second, hcompare, unit, hunit, hvalue, hnumber⟩ :=
    compareInt_eq negative mantissa exponent number
  rw [hcompare, hvalue, hnumber, mul_le_mul_iff_left₀ hunit, Int.cast_le]
  exact compare_le_iff_le

theorem compareInt_ne_lt_iff : compareInt negative mantissa exponent number ≠ .lt ↔
    (number : ℚ) ≤ (if negative then -mantissa else mantissa : ℤ) * 2 ^ exponent := by
  obtain ⟨first, second, hcompare, unit, hunit, hvalue, hnumber⟩ :=
    compareInt_eq negative mantissa exponent number
  rw [hcompare, hvalue, hnumber, mul_le_mul_iff_left₀ hunit, Int.cast_le]
  exact compare_ge_iff_ge

end Integer

namespace Number

/-- What a finite number stands for. -/
def value? : Number → Option ℚ
  | .whole value => some value
  | .real value => if isFinite value then some (exactValue value) else none

@[simp]
theorem value?_real_eq_some {value : Float} {exact : ℚ} :
    value? (.real value) = some exact ↔ isFinite value = true ∧ exactValue value = exact := by
  simp [value?]

theorem ne_gt_of_le {first second : Number} {order : Ordering}
    (hcompare : compare? first second = some order) (hle : first.le second = true) :
    order ≠ .gt := by
  simpa [le, hcompare] using hle

/-- The order of numbers is the order of what they stand for. -/
theorem exact_le_of_le {first second : Number} {exact exact' : ℚ}
    (hfirst : first.value? = some exact) (hsecond : second.value? = some exact')
    (hle : first.le second = true) : exact ≤ exact' := by
  cases first with
  | whole value =>
      obtain rfl : (value : ℚ) = exact := Option.some.inj hfirst
      cases second with
      | whole value' =>
          obtain rfl : (value' : ℚ) = exact' := Option.some.inj hsecond
          exact Int.cast_le.mpr (compare_le_iff_le.mp (ne_gt_of_le rfl hle))
      | real value' =>
          obtain ⟨hfinite, rfl⟩ := value?_real_eq_some.mp hsecond
          obtain ⟨negative, mantissa, exponent, hparts⟩ := exists_parts hfinite
          have hcompare : compare? (.whole value) (.real value') =
              some (compareInt negative mantissa exponent value).swap := by
            simp only [compare?, compare?.realWithWhole, hparts, Option.map_some]
          have hswap := ne_gt_of_le hcompare hle
          rw [exactValue_of_parts hparts, ← compareInt_ne_lt_iff]
          intro hless
          rw [hless] at hswap
          exact hswap rfl
  | real value =>
      obtain ⟨hfinite, rfl⟩ := value?_real_eq_some.mp hfirst
      cases second with
      | whole value' =>
          obtain rfl : (value' : ℚ) = exact' := Option.some.inj hsecond
          obtain ⟨negative, mantissa, exponent, hparts⟩ := exists_parts hfinite
          have hcompare : compare? (.real value) (.whole value') =
              some (compareInt negative mantissa exponent value') := by
            simp only [compare?, compare?.realWithWhole, hparts]
          rw [exactValue_of_parts hparts, ← compareInt_ne_gt_iff]
          exact ne_gt_of_le hcompare hle
      | real value' =>
          obtain ⟨hfinite', rfl⟩ := value?_real_eq_some.mp hsecond
          have hcompare : compare? (.real value) (.real value') =
              some (compare (place value) (place value')) := by
            simp only [compare?, rank?_eq_some_place (isNaN_of_isFinite hfinite),
              rank?_eq_some_place (isNaN_of_isFinite hfinite')]
          exact exactValue_le hfinite hfinite' (compare_le_iff_le.mp (ne_gt_of_le hcompare hle))

end Number

end AirQuality.Decimal
