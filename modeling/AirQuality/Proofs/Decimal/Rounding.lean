import AirQuality.Decimal.Rounded
import Mathlib

/-!
# Rounding to binary64

A binary64 number is an integer of at most 53 binary digits times a power of two that is not
below the least one.  The rounding of an integer times a power of two is in canonical form, and
no binary64 number is nearer.  What is nearest to a larger number is not smaller, whichever way
ties go, so that nothing here depends on how they are broken.
-/

namespace AirQuality.Decimal

open Float.Model (Format UnpackedFloat totalExponent)
open Float.Model.UnpackedFloat

/-- The value of a binary64 number, were there no greatest one. -/
def Representable (number : ℚ) : Prop :=
  ∃ mantissa exponent : ℤ, |mantissa| ≤ 2 * hiddenWeight ∧ -1074 ≤ exponent ∧
    number = mantissa * 2 ^ exponent

/-- No representable number is nearer to `exact` than `number`. -/
structure IsNearest (exact number : ℚ) : Prop where
  representable : Representable number
  closest : ∀ {other : ℚ}, Representable other → |number - exact| ≤ |other - exact|

section Nearest

variable {exact exact' number number' bound : ℚ}

theorem Representable.neg (hnumber : Representable number) : Representable (-number) := by
  obtain ⟨mantissa, exponent, hsize, hleast, rfl⟩ := hnumber
  refine ⟨-mantissa, exponent, ?_, hleast, ?_⟩
  · rwa [abs_neg]
  · push_cast
    ring

theorem representable_zero : Representable 0 :=
  ⟨0, 0, by norm_num [hiddenWeight], by norm_num, by norm_num⟩

theorem Representable.isNearest (hnumber : Representable number) : IsNearest number number where
  representable := hnumber
  closest _ := by
    rw [sub_self, abs_zero]
    exact abs_nonneg _

theorem IsNearest.neg (hnearest : IsNearest exact number) : IsNearest (-exact) (-number) where
  representable := hnearest.representable.neg
  closest {other} hother := by
    have hclosest := hnearest.closest hother.neg
    rw [← abs_neg, ← abs_neg (other - -exact)]
    calc |-(-number - -exact)| = |number - exact| := by ring_nf
      _ ≤ |-other - exact| := hclosest
      _ = |-(other - -exact)| := by ring_nf

/-- A representable number is nearest only to itself. -/
theorem IsNearest.eq_of_representable (hnearest : IsNearest exact number)
    (hexact : Representable exact) : number = exact := by
  have hclosest := hnearest.closest hexact
  rw [sub_self, abs_zero] at hclosest
  exact sub_eq_zero.mp (abs_nonpos_iff.mp hclosest)

/-- Of two numbers the nearer one is on the near side of their middle. -/
theorem add_le_two_mul_of_abs_sub_le (hless : number' < number)
    (hcloser : |number - exact| ≤ |number' - exact|) : number + number' ≤ 2 * exact := by
  have hsquares := sq_le_sq.mpr hcloser
  by_contra hmiddle
  have hproduct : 0 < (number - number') * (number + number' - 2 * exact) :=
    mul_pos (by linarith) (by linarith)
  nlinarith only [hsquares, hproduct]

theorem IsNearest.le_of_lt (hnearest : IsNearest exact number)
    (hnearest' : IsNearest exact' number') (hless : exact < exact') : number ≤ number' := by
  by_contra hgreater
  have hless' : number' < number := not_le.mp hgreater
  have hlow := add_le_two_mul_of_abs_sub_le hless' (hnearest.closest hnearest'.representable)
  have hhigh := add_le_two_mul_of_abs_sub_le (neg_lt_neg hless')
    (hnearest'.neg.closest hnearest.neg.representable)
  linarith

theorem IsNearest.le_of_le (hnearest : IsNearest exact number) (hbound : Representable bound)
    (hle : exact ≤ bound) : number ≤ bound := by
  cases hle.eq_or_lt with
  | inl hequal => exact (hnearest.eq_of_representable (hequal ▸ hbound)).trans hequal |>.le
  | inr hless => exact hnearest.le_of_lt hbound.isNearest hless

theorem IsNearest.ge_of_ge (hnearest : IsNearest exact number) (hbound : Representable bound)
    (hge : bound ≤ exact) : bound ≤ number :=
  neg_le_neg_iff.mp (hnearest.neg.le_of_le hbound.neg (neg_le_neg hge))

end Nearest

/-- A multiple of a unit within half a unit of a number is nearest to it, if the unit is the
least one or the number has all 53 digits before it. -/
theorem isNearest_of_abs_sub_le {exact : ℚ} {mantissa : ℕ} {exponent : ℤ}
    (hsize : mantissa ≤ 2 * hiddenWeight) (hleast : -1074 ≤ exponent)
    (hhalf : |(mantissa : ℚ) * 2 ^ exponent - exact| ≤ 2 ^ exponent / 2)
    (hdigits : hiddenWeight * 2 ^ exponent ≤ exact ∨ exponent = -1074) :
    IsNearest exact (mantissa * 2 ^ exponent) where
  representable := by
    refine ⟨mantissa, exponent, ?_, hleast, by rw [Int.cast_natCast]⟩
    rw [Nat.abs_cast]
    exact_mod_cast hsize
  closest {other} hother := by
    have hunit : (0 : ℚ) < 2 ^ exponent := by positivity
    have hmultiple : ∀ count : ℤ,
        |(mantissa : ℚ) * 2 ^ exponent - exact| ≤ |count * 2 ^ exponent - exact| := by
      intro count
      by_cases hsame : count = mantissa
      · rw [hsame, Int.cast_natCast]
      · have hapart : (1 : ℚ) ≤ |(count - mantissa : ℤ)| := by
          exact_mod_cast Int.one_le_abs (sub_ne_zero.mpr hsame)
        have hgap : (2 : ℚ) ^ exponent ≤
            |(count : ℚ) * 2 ^ exponent - mantissa * 2 ^ exponent| := by
          rw [← sub_mul, abs_mul, abs_of_pos hunit]
          push_cast at hapart
          exact le_mul_of_one_le_left hunit.le hapart
        have htriangle := abs_sub_le (count * 2 ^ exponent : ℚ) exact (mantissa * 2 ^ exponent)
        rw [abs_sub_comm exact] at htriangle
        linarith
    obtain ⟨count, exponent', hcount, hleast', rfl⟩ := hother
    by_cases hcoarse : exponent ≤ exponent'
    · have hscale : (count : ℚ) * 2 ^ exponent' =
          (count * 2 ^ (exponent' - exponent).toNat : ℤ) * 2 ^ exponent := by
        push_cast
        rw [mul_assoc, ← zpow_natCast, ← zpow_add₀ two_ne_zero,
          Int.toNat_of_nonneg (sub_nonneg.mpr hcoarse), sub_add_cancel]
      rw [hscale]
      exact hmultiple _
    · -- a finer number is below the leading digit, which is a multiple of the unit
      have hfull : hiddenWeight * 2 ^ exponent ≤ exact := hdigits.resolve_right (by omega)
      have hfiner : (2 : ℚ) ^ exponent' ≤ 2 ^ (exponent - 1) :=
        zpow_le_zpow_right₀ one_le_two (by omega)
      have hhalved : (2 : ℚ) ^ exponent = 2 ^ (exponent - 1) * 2 := by
        rw [← zpow_add_one₀ two_ne_zero, sub_add_cancel]
      have hbelow : (count : ℚ) * 2 ^ exponent' ≤ hiddenWeight * 2 ^ exponent := by
        have hcount' : (count : ℚ) ≤ 2 * hiddenWeight := by
          have hinteger : (count : ℚ) ≤ (2 * hiddenWeight : ℤ) :=
            Int.cast_le.mpr ((le_abs_self count).trans hcount)
          simpa only [Int.cast_mul, Int.cast_ofNat, Int.cast_natCast] using hinteger
        calc (count : ℚ) * 2 ^ exponent' ≤ (2 * hiddenWeight) * 2 ^ exponent' :=
              mul_le_mul_of_nonneg_right hcount' (by positivity)
          _ ≤ (2 * hiddenWeight) * 2 ^ (exponent - 1) :=
              mul_le_mul_of_nonneg_left hfiner (by positivity)
          _ = hiddenWeight * 2 ^ exponent := by rw [hhalved]; ring
      calc |(mantissa : ℚ) * 2 ^ exponent - exact|
          ≤ |((hiddenWeight : ℤ) : ℚ) * 2 ^ exponent - exact| := hmultiple hiddenWeight
        _ = exact - hiddenWeight * 2 ^ exponent := by
            rw [abs_sub_comm, Int.cast_natCast, abs_of_nonneg (sub_nonneg.mpr hfull)]
        _ ≤ exact - count * 2 ^ exponent' := sub_le_sub_left hbelow exact
        _ ≤ |exact - count * 2 ^ exponent'| := le_abs_self _
        _ = |count * 2 ^ exponent' - exact| := abs_sub_comm _ _

/-! ### Shifting a mantissa -/

/-- The two bits behind a shifted mantissa say how what was shifted out compares with nothing
and with half a unit. -/
structure Tracks (shifted : ExtendedMantissa) (whole unit : ℕ) : Prop where
  mantissa_eq : shifted.mantissa = whole / unit
  roundBit_iff : shifted.roundBit = true ↔ unit ≤ 2 * (whole % unit)
  stickyBit_iff :
    shifted.stickyBit = true ↔ whole % unit ≠ 0 ∧ 2 * (whole % unit) ≠ unit

theorem tracks_exact (whole : ℕ) :
    Tracks (ExtendedMantissa.ofMantissaAndAccuracy whole .exact) whole 1 := by
  constructor <;> simp [ExtendedMantissa.ofMantissaAndAccuracy, Nat.mod_one]

theorem Tracks.shiftRightOne {shifted : ExtendedMantissa} {whole unit : ℕ} (hunit : 0 < unit)
    (htracks : Tracks shifted whole unit) : Tracks shifted.shiftRightOne whole (unit * 2) := by
  have hrest := Nat.mod_lt whole hunit
  have hmod : whole % (unit * 2) = whole % unit + unit * (whole / unit % 2) := Nat.mod_mul
  have hbit : whole / unit % 2 = 0 ∨ whole / unit % 2 = 1 := Nat.mod_two_eq_zero_or_one _
  constructor
  · simp only [ExtendedMantissa.shiftRightOne, htracks.mantissa_eq, Nat.div_div_eq_div_mul]
  · simp only [ExtendedMantissa.shiftRightOne, htracks.mantissa_eq, hmod, bne_iff_ne]
    cases hbit with
    | inl hbit => rw [hbit]; omega
    | inr hbit => rw [hbit]; omega
  · simp only [ExtendedMantissa.shiftRightOne, Bool.or_eq_true, htracks.roundBit_iff,
      htracks.stickyBit_iff, hmod]
    cases hbit with
    | inl hbit => rw [hbit]; omega
    | inr hbit => rw [hbit]; omega

theorem tracks_shiftRight (whole count : ℕ) :
    Tracks (ExtendedMantissa.ofMantissaAndAccuracy whole .exact >>> count) whole (2 ^ count) := by
  change Tracks (count.repeat ExtendedMantissa.shiftRightOne _) _ _
  induction count with
  | zero => exact tracks_exact whole
  | succ count ih => exact ih.shiftRightOne (Nat.two_pow_pos count)

/-- Rounding after a shift is rounding the quotient. -/
theorem Tracks.roundedMantissa_eq {shifted : ExtendedMantissa} {whole unit : ℕ}
    (htracks : Tracks shifted whole unit) (hunit : 0 < unit) :
    shifted.roundedMantissa = roundDiv whole unit := by
  obtain ⟨mantissa, roundBit, stickyBit⟩ := shifted
  obtain ⟨hmantissa, hround, hsticky⟩ := htracks
  have hbit : whole / unit % 2 = 0 ∨ whole / unit % 2 = 1 := Nat.mod_two_eq_zero_or_one _
  simp only at hmantissa hround hsticky
  simp only [ExtendedMantissa.roundedMantissa, roundDiv, hmantissa]
  cases roundBit with
  | false =>
      have hbelow : 2 * (whole % unit) < unit := by simpa using hround
      rw [if_pos hbelow]
      cases stickyBit <;> rfl
  | true =>
      have hhalf : unit ≤ 2 * (whole % unit) := by simpa using hround
      cases stickyBit with
      | false =>
          have htie : 2 * (whole % unit) = unit := by
            by_contra hne
            have := hsticky.mpr ⟨by omega, hne⟩
            contradiction
          rw [if_neg (by omega), if_neg (by omega)]
          simp only [ExtendedMantissa.accuracy, Accuracy.roundToNearestEven]
          cases hbit with
          | inl hbit => rw [hbit, if_pos rfl, Nat.add_zero]
          | inr hbit => rw [hbit, if_neg Nat.one_ne_zero]
      | true =>
          have habove : unit < 2 * (whole % unit) := by
            have := (hsticky.mp rfl).2
            omega
          rw [if_neg (by omega), if_pos habove]
          rfl

/-! ### Rounding to the canonical form -/

/-- The number an unpacked one stands for, if it is finite. -/
def unpackedValue : UnpackedFloat → ℚ
  | .finite sign mantissa exponent _ => sign.apply mantissa * 2 ^ exponent
  | _ => 0

@[simp]
theorem unpackedValue_zero (sign : Sign) : unpackedValue (.zero sign) = 0 := rfl

@[simp]
theorem unpackedValue_finite (sign : Sign) {mantissa : ℕ} (exponent : ℤ)
    (hpositive : 0 < mantissa) :
    unpackedValue (.finite sign mantissa exponent hpositive) =
      sign.apply mantissa * 2 ^ exponent := rfl

/-- A finite number as the binary64 layout has it: with 53 digits, or with the least exponent. -/
def Canonical : UnpackedFloat → Prop
  | .zero _ => True
  | .finite _ mantissa exponent _ => mantissa < 2 * hiddenWeight ∧ -1074 ≤ exponent ∧
      (hiddenWeight ≤ mantissa ∨ exponent = -1074)
  | _ => False

theorem targetExponent_eq (mantissa : ℕ) (exponent : ℤ) :
    Format.binary64.targetExponent (totalExponent mantissa exponent) =
      max (mantissa.log2 + exponent - 52) (-1074) := by
  simp only [Format.targetExponent, totalExponent, Format.mantissaBits, Format.minExponent]
  omega

theorem shiftToTargetExponent_of_lt {mantissa : ℕ} {exponent : ℤ}
    (hsize : mantissa < 2 * hiddenWeight) (hleast : -1074 ≤ exponent) :
    shiftToTargetExponent Format.binary64 mantissa exponent .exact =
      (⟨mantissa, false, false⟩, exponent) := by
  have hdigits : mantissa.log2 < 53 := by
    by_cases hzero : mantissa = 0
    · rw [hzero, Nat.log2_zero]
      decide
    · exact (Nat.log2_lt hzero).mpr hsize
  have hshift : (max (mantissa.log2 + exponent - 52) (-1074) - exponent).toNat = 0 := by omega
  simp only [shiftToTargetExponent, shiftToExponent, targetExponent_eq, hshift, Int.natCast_zero,
    add_zero]
  rfl

/-- A mantissa rounded up to 54 digits loses the last one, a zero. -/
theorem shiftToTargetExponent_carry {exponent : ℤ} (hleast : -1074 ≤ exponent) :
    shiftToTargetExponent Format.binary64 (2 * hiddenWeight) exponent .exact =
      (⟨hiddenWeight, false, false⟩, exponent + 1) := by
  have hdigits : (2 * hiddenWeight).log2 = 53 := by decide
  have hshift : (max ((2 * hiddenWeight).log2 + exponent - 52) (-1074) - exponent).toNat = 1 := by
    omega
  simp only [shiftToTargetExponent, shiftToExponent, targetExponent_eq, hshift]
  rfl

/-- A rounded mantissa as an unpacked number. -/
def assembled (sign : Sign) (mantissa : ℕ) (exponent : ℤ) : UnpackedFloat :=
  if h : mantissa = 0 then .zero sign
  else if mantissa < 2 * hiddenWeight then .finite sign mantissa exponent (Nat.pos_of_ne_zero h)
  else .finite sign hiddenWeight (exponent + 1) (by decide)

theorem unpackedValue_assembled (sign : Sign) {mantissa : ℕ} (exponent : ℤ)
    (hsize : mantissa ≤ 2 * hiddenWeight) :
    unpackedValue (assembled sign mantissa exponent) = sign.apply mantissa * 2 ^ exponent := by
  unfold assembled
  split_ifs with hzero hsmall
  · subst hzero
    cases sign <;> simp [unpackedValue, Sign.apply]
  · rfl
  · have hcarry : mantissa = 2 * hiddenWeight := by omega
    subst hcarry
    cases sign <;> simp only [unpackedValue, Sign.apply] <;>
      rw [zpow_add_one₀ (two_ne_zero : (2 : ℚ) ≠ 0)] <;> push_cast <;> ring

theorem canonical_assembled (sign : Sign) {mantissa : ℕ} {exponent : ℤ}
    (hleast : -1074 ≤ exponent)
    (hdigits : hiddenWeight ≤ mantissa ∨ exponent = -1074) :
    Canonical (assembled sign mantissa exponent) := by
  unfold assembled
  split_ifs with hzero hsmall
  · trivial
  · exact ⟨hsmall, hleast, hdigits⟩
  · exact ⟨by decide, by omega, Or.inl le_rfl⟩

/-- A finite number in canonical form that is nearest to `exact`. -/
structure IsRounded (exact : ℚ) (rounded : UnpackedFloat) : Prop where
  canonical : Canonical rounded
  isNearest : IsNearest exact (unpackedValue rounded)

section Rounded

variable (sign : Sign) {mantissa : ℕ} (exponent : ℤ)

/-- A mantissa and an exponent put together. -/
def finished (final : ExtendedMantissa × ℤ) : UnpackedFloat :=
  if h : final.1.mantissa = 0 then .zero sign
  else .finite sign final.1.mantissa final.2 (Nat.pos_of_ne_zero h)

/-- Rounding is a rounded quotient by the power of two that raises the exponent to its target. -/
theorem roundWithAccuracy_eq {target : ℤ}
    (htarget : target = max (mantissa.log2 + exponent - 52) (-1074)) (hraised : exponent ≤ target)
    (hsize : roundDiv mantissa (2 ^ (target - exponent).toNat) ≤ 2 * hiddenWeight) :
    roundWithAccuracy Format.binary64 sign mantissa exponent .exact =
      assembled sign (roundDiv mantissa (2 ^ (target - exponent).toNat)) target := by
  have hleast : -1074 ≤ target := htarget ▸ le_max_right _ _
  have hexponent : exponent + (target - exponent).toNat = target := by omega
  have hmantissa := (tracks_shiftRight mantissa (target - exponent).toNat).roundedMantissa_eq
    (Nat.two_pow_pos _)
  have hfirst : shiftToTargetExponent Format.binary64 mantissa exponent .exact =
      (ExtendedMantissa.ofMantissaAndAccuracy mantissa .exact >>> (target - exponent).toNat,
        target) := by
    simp only [shiftToTargetExponent, shiftToExponent, targetExponent_eq, ← htarget, hexponent]
  change finished sign (shiftToTargetExponent Format.binary64
    (shiftToTargetExponent Format.binary64 mantissa exponent .exact).1.roundedMantissa
    (shiftToTargetExponent Format.binary64 mantissa exponent .exact).2 .exact) = _
  rw [hfirst, hmantissa]
  cases hsize.lt_or_eq with
  | inl hsmall =>
      rw [shiftToTargetExponent_of_lt hsmall hleast]
      simp only [finished, assembled, if_pos hsmall]
  | inr hcarry =>
      rw [hcarry, shiftToTargetExponent_carry hleast]
      rfl

theorem roundDiv_le_of_log2_lt {shift : ℕ} (hdigits : mantissa.log2 < 53 + shift) :
    roundDiv mantissa (2 ^ shift) ≤ 2 * hiddenWeight := by
  have hnear := (roundDiv_near mantissa _ (Nat.two_pow_pos shift)).2
  have hbelow : mantissa < 2 * hiddenWeight * 2 ^ shift :=
    calc mantissa < 2 ^ (mantissa.log2 + 1) := Nat.lt_log2_self
      _ ≤ 2 ^ (53 + shift) := Nat.pow_le_pow_right two_pos hdigits
      _ = 2 * hiddenWeight * 2 ^ shift := Nat.pow_add 2 53 shift
  by_contra hmore
  have hstep : (2 * hiddenWeight + 1) * 2 ^ shift ≤ roundDiv mantissa (2 ^ shift) * 2 ^ shift :=
    Nat.mul_le_mul_right _ (by omega)
  have hunit := Nat.two_pow_pos shift
  rw [Nat.mul_assoc] at hnear
  rw [Nat.add_mul, Nat.one_mul] at hstep
  omega

theorem hiddenWeight_mul_le {shift : ℕ} (hpositive : 0 < mantissa)
    (hdigits : mantissa.log2 = 52 + shift) : hiddenWeight * 2 ^ shift ≤ mantissa :=
  calc hiddenWeight * 2 ^ shift = 2 ^ (52 + shift) := (Nat.pow_add 2 52 shift).symm
    _ = 2 ^ mantissa.log2 := by rw [hdigits]
    _ ≤ mantissa := Nat.log2_self_le hpositive.ne'

theorem le_roundDiv_of_log2_eq {shift : ℕ} (hpositive : 0 < mantissa)
    (hdigits : mantissa.log2 = 52 + shift) : hiddenWeight ≤ roundDiv mantissa (2 ^ shift) := by
  have hnear := (roundDiv_near mantissa _ (Nat.two_pow_pos shift)).1
  have habove := hiddenWeight_mul_le hpositive hdigits
  by_contra hfewer
  have hstep : (roundDiv mantissa (2 ^ shift) + 1) * 2 ^ shift ≤ hiddenWeight * 2 ^ shift :=
    Nat.mul_le_mul_right _ (by omega)
  have hunit := Nat.two_pow_pos shift
  rw [Nat.add_mul, Nat.one_mul, Nat.mul_assoc] at hnear
  rw [Nat.add_mul, Nat.one_mul] at hstep
  omega

/-- The rounded quotient is within half a unit of the exact one. -/
theorem abs_roundDiv_mul_sub_le (whole : ℕ) {unit : ℕ} (hunit : 0 < unit) :
    |(roundDiv whole unit * unit : ℚ) - whole| ≤ unit / 2 := by
  obtain ⟨hlow, hhigh⟩ := roundDiv_near whole unit hunit
  have hlow' : (2 * whole : ℚ) ≤ (2 * roundDiv whole unit + 1) * unit := by exact_mod_cast hlow
  have hhigh' : (2 * roundDiv whole unit * unit : ℚ) ≤ 2 * whole + unit := by
    exact_mod_cast hhigh
  rw [abs_le]
  constructor <;> linarith

/-- The rounded quotient by the power of two between two exponents is nearest, if the quotient
has 53 digits before it or the raised exponent is the least one. -/
theorem isNearest_roundDiv {shift : ℕ} (hpositive : 0 < mantissa)
    (hmost : mantissa.log2 < 53 + shift) (hleast : -1074 ≤ exponent + shift)
    (hdigits : mantissa.log2 = 52 + shift ∨ exponent + shift = -1074) :
    IsNearest (mantissa * 2 ^ exponent)
      (roundDiv mantissa (2 ^ shift) * 2 ^ (exponent + shift)) := by
  have hscale : (0 : ℚ) < 2 ^ exponent := by positivity
  have hunit : (2 : ℚ) ^ (exponent + shift) = (2 ^ shift : ℕ) * 2 ^ exponent := by
    rw [zpow_add₀ two_ne_zero, zpow_natCast, mul_comm]
    push_cast
    rfl
  have hhalf : |(roundDiv mantissa (2 ^ shift) : ℚ) * 2 ^ (exponent + shift) -
      mantissa * 2 ^ exponent| ≤ 2 ^ (exponent + shift) / 2 := by
    rw [hunit, ← mul_assoc, ← sub_mul, abs_mul, abs_of_pos hscale, mul_div_right_comm]
    exact mul_le_mul_of_nonneg_right
      (abs_roundDiv_mul_sub_le mantissa (Nat.two_pow_pos shift)) hscale.le
  apply isNearest_of_abs_sub_le (roundDiv_le_of_log2_lt hmost) hleast hhalf
  apply hdigits.imp_left
  intro hfull
  have habove : (hiddenWeight * (2 ^ shift : ℕ) : ℚ) ≤ mantissa := by
    exact_mod_cast hiddenWeight_mul_le hpositive hfull
  calc (hiddenWeight : ℚ) * 2 ^ (exponent + shift)
      = hiddenWeight * (2 ^ shift : ℕ) * 2 ^ exponent := by rw [hunit, mul_assoc]
    _ ≤ mantissa * 2 ^ exponent := mul_le_mul_of_nonneg_right habove hscale.le

theorem isRounded_roundWithAccuracy (hpositive : 0 < mantissa)
    (hraised : exponent ≤ max (mantissa.log2 + exponent - 52) (-1074)) :
    IsRounded (sign.apply mantissa * 2 ^ exponent)
      (roundWithAccuracy Format.binary64 sign mantissa exponent .exact) := by
  generalize htarget : max (mantissa.log2 + exponent - 52) (-1074) = target at hraised
  have hshift : exponent + (target - exponent).toNat = target := by omega
  have hmost : mantissa.log2 < 53 + (target - exponent).toNat := by omega
  have hdigits : mantissa.log2 = 52 + (target - exponent).toNat ∨ target = -1074 := by omega
  have hsize := roundDiv_le_of_log2_lt hmost
  have hnearest := isNearest_roundDiv exponent hpositive hmost (by omega)
    (by rwa [hshift])
  rw [hshift] at hnearest
  rw [roundWithAccuracy_eq sign exponent htarget.symm hraised hsize]
  constructor
  · exact canonical_assembled sign (by omega)
      (hdigits.imp_left fun hfull => le_roundDiv_of_log2_eq hpositive hfull)
  · rw [unpackedValue_assembled sign target hsize]
    cases sign with
    | positive => exact_mod_cast hnearest
    | negative => simpa [Sign.apply] using hnearest.neg

theorem log2_shiftLeft (hpositive : 0 < mantissa) (count : ℕ) :
    (mantissa <<< count).log2 = mantissa.log2 + count := by
  have hlow := Nat.log2_self_le hpositive.ne'
  have hhigh : mantissa < 2 ^ (mantissa.log2 + 1) := Nat.lt_log2_self
  have hunit := Nat.two_pow_pos count
  have hpositive' : mantissa <<< count ≠ 0 := by
    rw [Nat.shiftLeft_eq]
    positivity
  rw [Nat.log2_eq_iff hpositive', Nat.shiftLeft_eq]
  constructor
  · rw [Nat.pow_add]
    exact Nat.mul_le_mul_right _ hlow
  · rw [Nat.add_right_comm, Nat.pow_add]
    exact Nat.mul_lt_mul_of_pos_right hhigh hunit

/-- Lowering an exponent leaves the number as it is. -/
theorem decreaseExponent_value (sign : Sign) (mantissa : ℕ) (exponent target : ℤ) :
    (sign.apply (decreaseExponent mantissa exponent target).1 : ℚ) *
      2 ^ (decreaseExponent mantissa exponent target).2 = sign.apply mantissa * 2 ^ exponent := by
  have hvalue : ((decreaseExponent mantissa exponent target).1 : ℚ) *
      2 ^ (decreaseExponent mantissa exponent target).2 = mantissa * 2 ^ exponent := by
    simp only [decreaseExponent, Nat.shiftLeft_eq]
    push_cast
    rw [mul_assoc, ← zpow_natCast, ← zpow_add₀ two_ne_zero, add_sub_cancel]
  cases sign with
  | positive => exact hvalue
  | negative => simp only [Sign.apply, Int.cast_neg, Int.cast_natCast, neg_mul, hvalue]

/-- An exponent that is too high is lowered first, which loses nothing. -/
theorem isRounded_round (hpositive : 0 < mantissa) :
    IsRounded (sign.apply mantissa * 2 ^ exponent)
      (UnpackedFloat.round Format.binary64 sign mantissa exponent) := by
  have hvalue := decreaseExponent_value sign mantissa exponent
    (Format.binary64.targetExponent (totalExponent mantissa exponent))
  unfold UnpackedFloat.round
  rw [targetExponent_eq] at hvalue ⊢
  generalize htarget : max (mantissa.log2 + exponent - 52) (-1074) = target at hvalue ⊢
  have hlog := log2_shiftLeft hpositive (exponent - target).toNat
  have hpositive' : 0 < (decreaseExponent mantissa exponent target).1 := by
    simp only [decreaseExponent, Nat.shiftLeft_eq]
    positivity
  have hrounded := isRounded_roundWithAccuracy sign (decreaseExponent mantissa exponent target).2
    hpositive' (by simp only [decreaseExponent, hlog]; omega)
  rw [← hvalue]
  exact hrounded

theorem isRounded_zero : IsRounded 0 (.zero sign) where
  canonical := trivial
  isNearest := representable_zero.isNearest

theorem isRounded_normalize (whole : ℤ) :
    IsRounded (whole * 2 ^ exponent)
      (UnpackedFloat.normalize Format.binary64 whole exponent sign) := by
  unfold UnpackedFloat.normalize
  cases hcompare : compare whole 0 with
  | lt =>
      have hnegative := compare_lt_iff_lt.mp hcompare
      have hrounded := isRounded_round .negative exponent
        (show 0 < (-whole).toNat by omega)
      rwa [Sign.apply, Int.toNat_of_nonneg (by omega), neg_neg] at hrounded
  | eq =>
      rw [compare_eq_iff_eq.mp hcompare, Int.cast_zero, zero_mul]
      exact isRounded_zero sign
  | gt =>
      have hpositive := compare_gt_iff_gt.mp hcompare
      have hrounded := isRounded_round .positive exponent (show 0 < whole.toNat by omega)
      rwa [Sign.apply, Int.toNat_of_nonneg (by omega)] at hrounded

end Rounded

end AirQuality.Decimal
