import AirQuality.Decimal.Binary64
import AirQuality.Proofs.Decimal.Rounding

/-!
# Binary64 arithmetic

The fields of the layout are a number in canonical form, and a number in canonical form that is
not too large goes into the fields and out of them unchanged.  So the difference and the product
of finite numbers, and the conversion of an integer, are finite and nearest to the exact result,
as long as that is not beyond the greatest finite number.
-/

namespace AirQuality.Decimal

open Float.Model (Format UnpackedFloat totalExponent)
open Float.Model.UnpackedFloat

/-- The number that a sign, an exponent field and a fraction stand for. -/
def ofFields (sign : Sign) (field fraction : ℕ) : UnpackedFloat :=
  if field = 2047 then if fraction = 0 then .infinity sign else .notANumber
  else if field = 0 then
    if h : fraction = 0 then .zero sign
    else .finite sign fraction (-1074) (Nat.pos_of_ne_zero h)
  else .finite sign (fraction + hiddenWeight) (field - 1075) (Nat.add_pos_right _ (by decide))

/-! ### The fields of the layout -/

section Fields

variable (bits : BitVec Format.binary64.numBits)

theorem implicit_append (fraction : BitVec 52) :
    (1#1 ++ fraction).toNat = fraction.toNat + hiddenWeight := by
  rw [BitVec.toNat_append, ← Nat.shiftLeft_add_eq_or_of_lt fraction.isLt]
  exact Nat.add_comm _ _

theorem unpack_eq_ofFields :
    unpack Format.binary64 bits = ofFields (Sign.ofBitVec (@unpackSign Format.binary64 bits))
      (@unpackExponent Format.binary64 bits).toNat
      (@unpackMantissa Format.binary64 bits).toNat := by
  have hfull : @unpackExponent Format.binary64 bits = -1#_ ↔
      (@unpackExponent Format.binary64 bits).toNat = 2047 := by
    rw [← BitVec.toNat_inj]
    rfl
  have hleast : @unpackExponent Format.binary64 bits = 0#_ ↔
      (@unpackExponent Format.binary64 bits).toNat = 0 := by
    rw [← BitVec.toNat_inj]
    rfl
  have hnone : @unpackMantissa Format.binary64 bits = 0#_ ↔
      (@unpackMantissa Format.binary64 bits).toNat = 0 := by
    rw [← BitVec.toNat_inj]
    rfl
  unfold unpack ofFields
  simp only [hfull, hleast, hnone]
  split_ifs with h1 h2 h3 h4
  · rfl
  · rfl
  · rfl
  · simp only [h3]
    rfl
  · have hmantissa := implicit_append (@unpackMantissa Format.binary64 bits)
    congr 1

theorem toNat_unpackMantissa :
    (@unpackMantissa Format.binary64 bits).toNat = bits.toNat % hiddenWeight := by
  unfold unpackMantissa
  rw [BitVec.toNat_cast, BitVec.extractLsb_toNat]
  rfl

theorem toNat_unpackExponent :
    (@unpackExponent Format.binary64 bits).toNat = bits.toNat / hiddenWeight % 2048 := by
  unfold unpackExponent
  rw [BitVec.toNat_cast, BitVec.extractLsb_toNat]
  rw [Nat.shiftRight_eq_div_pow]
  rfl

theorem toNat_unpackSign :
    (@unpackSign Format.binary64 bits).toNat = bits.toNat / signWeight := by
  have hbits : bits.toNat < signWeight * 2 := bits.isLt
  unfold unpackSign
  rw [BitVec.toNat_cast, BitVec.extractLsb_toNat, Nat.shiftRight_eq_div_pow]
  exact Nat.mod_eq_of_lt (Nat.div_lt_of_lt_mul hbits)

end Fields

/-- Whether a sign is the one of negative numbers. -/
def isNegative : Sign → Bool
  | .negative => true
  | .positive => false

theorem isNegative_ofBitVec (bit : BitVec 1) :
    isNegative (Sign.ofBitVec bit) = (bit.toNat == 1) := by
  revert bit
  decide

/-- The parts of an unpacked number. -/
def partsOf : UnpackedFloat → Parts
  | .infinity sign => .infinite (isNegative sign)
  | .notANumber => .notANumber
  | .zero sign => .finite (isNegative sign) 0 (-1074)
  | .finite sign mantissa exponent _ => .finite (isNegative sign) mantissa exponent

theorem parts_eq_partsOf (x : Float) : parts x = partsOf x.toModel.unpack := by
  change partsOfBits x.toBits.toNat = partsOf (unpack Format.binary64 x.toBits.toBitVec)
  rw [unpack_eq_ofFields, toNat_unpackMantissa, toNat_unpackExponent]
  have hsign : isNegative (Sign.ofBitVec (@unpackSign Format.binary64 x.toBits.toBitVec)) =
      (x.toBits.toNat / signWeight == 1) := by
    rw [isNegative_ofBitVec, toNat_unpackSign]
    rfl
  unfold partsOfBits ofFields
  simp only [UInt64.toNat_toBitVec, ← hsign]
  split_ifs with hfull hnone hleast hzero
  · rfl
  · rfl
  · rw [hzero]; rfl
  · rfl
  · rfl

theorem canonical_ofFields (sign : Sign) {field fraction : ℕ} (hfraction : fraction < hiddenWeight)
    (hfield : field ≠ 2047) : Canonical (ofFields sign field fraction) := by
  unfold ofFields
  rw [if_neg hfield]
  split_ifs with hleast hzero
  · trivial
  · exact ⟨by omega, le_rfl, Or.inr rfl⟩
  · exact ⟨by omega, by omega, Or.inl (by omega)⟩

/-- Every binary64 value has its fields in range. -/
theorem exists_ofFields (x : Float) :
    ∃ sign field fraction, field < 2048 ∧ fraction < hiddenWeight ∧
      x.toModel.unpack = ofFields sign field fraction :=
  ⟨_, _, _, BitVec.isLt _, BitVec.isLt _, unpack_eq_ofFields x.toBits.toBitVec⟩

/-- The finite numbers are the ones in canonical form. -/
theorem isFinite_iff_canonical (x : Float) : isFinite x = true ↔ Canonical x.toModel.unpack := by
  obtain ⟨sign, field, fraction, -, hfraction, hunpack⟩ := exists_ofFields x
  unfold isFinite
  rw [parts_eq_partsOf, hunpack]
  by_cases hfield : field = 2047
  · unfold ofFields
    rw [if_pos hfield]
    split_ifs <;> simp [partsOf, Canonical]
  · have hcanonical := canonical_ofFields sign hfraction hfield
    refine iff_of_true ?_ hcanonical
    revert hcanonical
    cases ofFields sign field fraction <;> simp [partsOf, Canonical]

theorem unpack_packComponents (sign : Sign) (field : BitVec Format.binary64.exponentBits)
    (fraction : BitVec Format.binary64.mantissaBitsWithoutImplicit) :
    unpack Format.binary64 (packComponents Format.binary64 sign field fraction) =
      ofFields sign field.toNat fraction.toNat := by
  rw [unpack_eq_ofFields, unpackExponent_packComponents, unpackMantissa_packComponents,
    unpackSign_packComponents, Sign.ofBitVec_toBitVec]

/-! ### Packing -/

/-- The greatest finite number. -/
def greatest : ℚ := (2 * hiddenWeight - 1) * 2 ^ (971 : ℤ)

theorem abs_apply_mul_zpow (sign : Sign) (mantissa : ℕ) (exponent : ℤ) :
    |(sign.apply mantissa * 2 ^ exponent : ℚ)| = mantissa * 2 ^ exponent := by
  cases sign <;> simp [Sign.apply, abs_mul, abs_zpow]

/-- A number that is not above the greatest one has an exponent that is not above its own. -/
theorem exponent_le {sign : Sign} {mantissa : ℕ} {exponent : ℤ}
    (hdigits : hiddenWeight ≤ mantissa ∨ exponent = -1074)
    (hsmall : |(sign.apply mantissa * 2 ^ exponent : ℚ)| ≤ greatest) : exponent ≤ 971 := by
  by_contra hlarge
  have hfull : (hiddenWeight : ℚ) ≤ mantissa := by
    exact_mod_cast hdigits.resolve_right (by omega)
  have hscale : (2 : ℚ) ^ (972 : ℤ) ≤ 2 ^ exponent := zpow_le_zpow_right₀ one_le_two (by omega)
  have hbeyond : greatest < hiddenWeight * 2 ^ (972 : ℤ) := by
    have hunit : (0 : ℚ) < 2 ^ (971 : ℤ) := by positivity
    calc greatest < 2 * hiddenWeight * 2 ^ (971 : ℤ) :=
          mul_lt_mul_of_pos_right (sub_one_lt _) hunit
      _ = hiddenWeight * (2 ^ (971 : ℤ) * 2) := by ring
      _ = hiddenWeight * 2 ^ (972 : ℤ) := by rw [← zpow_add_one₀ two_ne_zero]; norm_num
  have hvalue : (hiddenWeight : ℚ) * 2 ^ (972 : ℤ) ≤ mantissa * 2 ^ exponent :=
    mul_le_mul hfull hscale (by positivity) (by positivity)
  rw [abs_apply_mul_zpow] at hsmall
  linarith

theorem log2_add_one_eq_iff {mantissa : ℕ} (hpositive : 0 < mantissa)
    (hsize : mantissa < 2 * hiddenWeight) : mantissa.log2 + 1 = 53 ↔ hiddenWeight ≤ mantissa := by
  have hmost : mantissa.log2 < 53 := (Nat.log2_lt hpositive.ne').mpr hsize
  have hleast : mantissa.log2 < 52 ↔ mantissa < hiddenWeight := Nat.log2_lt hpositive.ne'
  omega

theorem pack_finite (sign : Sign) {mantissa : ℕ} {exponent : ℤ} (hpositive : 0 < mantissa)
    (hsize : mantissa < 2 * hiddenWeight) (hleast : -1074 ≤ exponent) (hmost : exponent ≤ 971) :
    pack Format.binary64 (.finite sign mantissa exponent hpositive) =
      packComponents Format.binary64 sign
        (BitVec.ofNat 11 (if hiddenWeight ≤ mantissa then (exponent + 1075).toNat else 0))
        (BitVec.ofNat 52 mantissa) := by
  have hbiased : (exponent + (1023 : ℕ) + (52 : ℕ)).toNat = (exponent + 1075).toNat := by omega
  have hfits : ¬ 2 ^ 11 ≤ (exponent + 1075).toNat + 1 := by omega
  unfold pack
  change (if 2 ^ 11 ≤ (exponent + (1023 : ℕ) + (52 : ℕ)).toNat + 1 then _
    else if mantissa.log2 + 1 = 53 then
      packComponents Format.binary64 sign
        (BitVec.ofNat 11 (exponent + (1023 : ℕ) + (52 : ℕ)).toNat) (BitVec.ofNat 52 mantissa)
    else packComponents Format.binary64 sign 0#11 (BitVec.ofNat 52 mantissa)) = _
  rw [hbiased, if_neg hfits]
  simp only [log2_add_one_eq_iff hpositive hsize]
  split_ifs <;> rfl

/-- Packing loses nothing of a number in canonical form that is not too large. -/
theorem unpack_pack {number : UnpackedFloat} (hcanonical : Canonical number)
    (hsmall : |unpackedValue number| ≤ greatest) :
    unpack Format.binary64 (pack Format.binary64 number) = number := by
  cases number with
  | infinity sign => exact hcanonical.elim
  | notANumber => exact hcanonical.elim
  | zero sign => exact unpack_packComponents sign 0 0
  | finite sign mantissa exponent hpositive =>
      obtain ⟨hsize, hleast, hdigits⟩ := hcanonical
      have hmost : exponent ≤ 971 := exponent_le hdigits hsmall
      have hweight : hiddenWeight = 2 ^ 52 := rfl
      rw [pack_finite sign hpositive hsize hleast hmost, unpack_packComponents]
      simp only [BitVec.toNat_ofNat]
      by_cases hfull : hiddenWeight ≤ mantissa
      · have hfield : (exponent + 1075).toNat % 2 ^ 11 = (exponent + 1075).toNat :=
          Nat.mod_eq_of_lt (by omega)
        have hfraction : mantissa % 2 ^ 52 + hiddenWeight = mantissa := by omega
        rw [if_pos hfull, hfield]
        unfold ofFields
        rw [if_neg (by omega), if_neg (by omega)]
        simp only [hfraction, UnpackedFloat.finite.injEq]
        exact ⟨trivial, trivial, by omega⟩
      · have hfraction : mantissa % 2 ^ 52 = mantissa := by omega
        rw [if_neg hfull, hfraction]
        unfold ofFields
        rw [if_neg (by omega), if_pos (by omega), dif_neg hpositive.ne', hdigits.resolve_left hfull]

/-! ### The results of arithmetic -/

/-- The number a finite binary64 value stands for. -/
def exactValue (x : Float) : ℚ := unpackedValue x.toModel.unpack

theorem exactValue_of_parts {x : Float} {negative : Bool} {mantissa : ℕ} {exponent : ℤ}
    (hparts : parts x = .finite negative mantissa exponent) :
    exactValue x = (if negative then -mantissa else mantissa : ℤ) * 2 ^ exponent := by
  rw [parts_eq_partsOf] at hparts
  unfold exactValue
  cases hunpack : x.toModel.unpack with
  | infinity sign => rw [hunpack] at hparts; cases hparts
  | notANumber => rw [hunpack] at hparts; cases hparts
  | zero sign =>
      rw [hunpack] at hparts
      injection hparts with hsign hmantissa hexponent
      cases negative <;> simp [← hmantissa]
  | finite sign mantissa' exponent' hpositive =>
      rw [hunpack] at hparts
      injection hparts with hsign hmantissa hexponent
      subst hsign hmantissa hexponent
      cases sign <;> rfl

theorem bounds_of_parts {x : Float} {negative : Bool} {mantissa : ℕ} {exponent : ℤ}
    (hparts : parts x = .finite negative mantissa exponent) :
    mantissa < 2 * hiddenWeight ∧ -1074 ≤ exponent := by
  have hcanonical : Canonical x.toModel.unpack := by
    rw [← isFinite_iff_canonical, isFinite, hparts]
  rw [parts_eq_partsOf] at hparts
  cases hunpack : x.toModel.unpack with
  | infinity sign => rw [hunpack] at hparts; cases hparts
  | notANumber => rw [hunpack] at hparts; cases hparts
  | zero sign =>
      rw [hunpack] at hparts
      injection hparts with hsign hmantissa hexponent
      subst hmantissa hexponent
      exact ⟨by decide, le_rfl⟩
  | finite sign mantissa' exponent' hpositive =>
      rw [hunpack] at hparts hcanonical
      injection hparts with hsign hmantissa hexponent
      subst hmantissa hexponent
      exact ⟨hcanonical.1, hcanonical.2.1⟩

/-- A finite binary64 value nearest to a number. -/
def IsResult (exact : ℚ) (x : Float) : Prop := IsRounded exact x.toModel.unpack

theorem representable_greatest : Representable greatest :=
  ⟨2 * hiddenWeight - 1, 971, by decide, by decide, by
    rw [greatest]
    norm_num⟩

/-- Packing a rounded number gives a result, if the exact one is not beyond the greatest. -/
theorem IsRounded.isResult {exact : ℚ} {number : UnpackedFloat} (hrounded : IsRounded exact number)
    (hsmall : |exact| ≤ greatest) : IsResult exact (.ofModel (.pack number)) := by
  have hvalue : |unpackedValue number| ≤ greatest := by
    rw [abs_le] at hsmall ⊢
    exact ⟨hrounded.isNearest.ge_of_ge representable_greatest.neg hsmall.1,
      hrounded.isNearest.le_of_le representable_greatest hsmall.2⟩
  have hunpack : (Float.Model.pack number).unpack = number :=
    unpack_pack hrounded.canonical hvalue
  unfold IsResult
  rwa [hunpack]

theorem abs_mul_zpow_le_greatest (sign : Sign) {mantissa : ℕ} {exponent : ℤ}
    (hsize : mantissa < 2 * hiddenWeight) (hmost : exponent ≤ 971) :
    |(sign.apply mantissa * 2 ^ exponent : ℚ)| ≤ greatest := by
  have hsize' : (mantissa : ℚ) ≤ 2 * hiddenWeight - 1 := by
    rw [le_sub_iff_add_le]
    exact_mod_cast hsize
  rw [abs_apply_mul_zpow]
  exact mul_le_mul hsize' (zpow_le_zpow_right₀ one_le_two hmost) (by positivity)
    ((Nat.cast_nonneg mantissa).trans hsize')

theorem natCast_le_greatest {count : ℕ} (hsize : count < 2 * hiddenWeight) : count ≤ greatest := by
  have hbound := abs_mul_zpow_le_greatest .positive hsize (show (0 : ℤ) ≤ 971 by decide)
  rwa [Sign.apply, zpow_zero, mul_one, Int.cast_natCast, Nat.abs_cast] at hbound

theorem abs_exactValue_le {x : Float} (hfinite : isFinite x = true) :
    |exactValue x| ≤ greatest := by
  have hcanonical := (isFinite_iff_canonical x).mp hfinite
  obtain ⟨sign, field, fraction, hfield, hfraction, hunpack⟩ := exists_ofFields x
  unfold exactValue
  rw [hunpack] at hcanonical ⊢
  have hzero : |(0 : ℚ)| ≤ greatest := by
    rw [abs_zero, ← Nat.cast_zero]
    exact natCast_le_greatest (by decide)
  unfold ofFields at hcanonical ⊢
  split_ifs at hcanonical ⊢ with hfull hnone hleast hempty
  · exact hcanonical.elim
  · exact hcanonical.elim
  · exact hzero
  · exact abs_mul_zpow_le_greatest sign (by omega) (by decide)
  · exact abs_mul_zpow_le_greatest sign (by omega) (by omega)

theorem representable_unpackedValue {number : UnpackedFloat} (hcanonical : Canonical number) :
    Representable (unpackedValue number) := by
  cases number with
  | infinity sign => exact hcanonical.elim
  | notANumber => exact hcanonical.elim
  | zero sign => exact representable_zero
  | finite sign mantissa exponent hpositive =>
      obtain ⟨hsize, hleast, -⟩ := hcanonical
      refine ⟨sign.apply mantissa, exponent, ?_, hleast, rfl⟩
      cases sign <;> simp only [Sign.apply, abs_neg, Nat.abs_cast] <;> omega

theorem isRounded_self {number : UnpackedFloat} (hcanonical : Canonical number) :
    IsRounded (unpackedValue number) number where
  canonical := hcanonical
  isNearest := (representable_unpackedValue hcanonical).isNearest

theorem canonical_neg {number : UnpackedFloat} (hcanonical : Canonical number) :
    Canonical number.neg := by
  cases number <;> exact hcanonical

theorem apply_neg (sign : Sign) (whole : ℤ) : (-sign).apply whole = -sign.apply whole := by
  cases sign with
  | positive => rfl
  | negative => exact (neg_neg whole).symm

theorem apply_mul (sign sign' : Sign) (whole whole' : ℤ) :
    (sign * sign').apply (whole * whole') = sign.apply whole * sign'.apply whole' := by
  cases sign with
  | positive =>
      cases sign' with
      | positive => rfl
      | negative => exact (mul_neg whole whole').symm
  | negative =>
      cases sign' with
      | positive => exact (neg_mul whole whole').symm
      | negative => exact (neg_mul_neg whole whole').symm

theorem unpackedValue_neg (number : UnpackedFloat) :
    unpackedValue number.neg = -unpackedValue number := by
  cases number with
  | finite sign mantissa exponent hpositive =>
      simp only [UnpackedFloat.neg, unpackedValue_finite, apply_neg, Int.cast_neg, neg_mul]
  | _ => rfl

theorem aligned_value (sign : Sign) (mantissa : ℕ) {exponent target : ℤ}
    (hlower : target ≤ exponent) :
    (sign.apply (decreaseExponent mantissa exponent target).1 : ℚ) * 2 ^ target =
      sign.apply mantissa * 2 ^ exponent := by
  have hexponent : (decreaseExponent mantissa exponent target).2 = target := by
    simp only [decreaseExponent]
    omega
  rw [← decreaseExponent_value sign mantissa exponent target, hexponent]

/-- A product has its digits where rounding needs them: two numbers without all 53 digits have
the least exponent. -/
theorem mul_raised {sign sign' : Sign} {mantissa mantissa' : ℕ} {exponent exponent' : ℤ}
    {hpositive : 0 < mantissa} {hpositive' : 0 < mantissa'}
    (hfirst : Canonical (.finite sign mantissa exponent hpositive))
    (hsecond : Canonical (.finite sign' mantissa' exponent' hpositive')) :
    exponent + exponent' ≤
      max ((mantissa * mantissa').log2 + (exponent + exponent') - 52) (-1074) := by
  have hdigits := hfirst.2.2
  have hdigits' := hsecond.2.2
  have hproduct : mantissa * mantissa' ≠ 0 := by positivity
  by_cases hfull : hiddenWeight ≤ mantissa * mantissa'
  · have hlog : 52 ≤ (mantissa * mantissa').log2 := (Nat.le_log2 hproduct).mpr hfull
    omega
  · have hless : mantissa ≤ mantissa * mantissa' := Nat.le_mul_of_pos_right mantissa hpositive'
    have hless' : mantissa' ≤ mantissa * mantissa' := Nat.le_mul_of_pos_left mantissa' hpositive
    omega

theorem isRounded_sub {first second : UnpackedFloat} (hfirst : Canonical first)
    (hsecond : Canonical second) :
    IsRounded (unpackedValue first - unpackedValue second)
      (UnpackedFloat.sub Format.binary64 first second) := by
  cases first with
  | infinity sign => exact hfirst.elim
  | notANumber => exact hfirst.elim
  | zero sign =>
      cases second with
      | infinity sign' => exact hsecond.elim
      | notANumber => exact hsecond.elim
      | zero sign' =>
          rw [unpackedValue_zero, unpackedValue_zero, sub_zero, UnpackedFloat.sub]
          split_ifs
          · exact isRounded_zero sign
          · exact isRounded_zero .positive
      | finite sign' mantissa' exponent' hpositive' =>
          rw [unpackedValue_zero, zero_sub, ← unpackedValue_neg]
          exact isRounded_self (canonical_neg hsecond)
  | finite sign mantissa exponent hpositive =>
      cases second with
      | infinity sign' => exact hsecond.elim
      | notANumber => exact hsecond.elim
      | zero sign' =>
          rw [unpackedValue_zero, sub_zero]
          exact isRounded_self hfirst
      | finite sign' mantissa' exponent' hpositive' =>
          have hrounded := isRounded_normalize .positive (min exponent exponent')
            (sign.apply (decreaseExponent mantissa exponent (min exponent exponent')).1 -
              sign'.apply (decreaseExponent mantissa' exponent' (min exponent exponent')).1)
          rw [Int.cast_sub, sub_mul, aligned_value _ _ (min_le_left _ _),
            aligned_value _ _ (min_le_right _ _)] at hrounded
          exact hrounded

theorem isRounded_mul {first second : UnpackedFloat} (hfirst : Canonical first)
    (hsecond : Canonical second) :
    IsRounded (unpackedValue first * unpackedValue second)
      (UnpackedFloat.mul Format.binary64 first second) := by
  cases first with
  | infinity sign => exact hfirst.elim
  | notANumber => exact hfirst.elim
  | zero sign =>
      rw [unpackedValue_zero, zero_mul]
      cases second with
      | infinity sign' => exact hsecond.elim
      | notANumber => exact hsecond.elim
      | zero sign' => exact isRounded_zero _
      | finite sign' mantissa' exponent' hpositive' => exact isRounded_zero _
  | finite sign mantissa exponent hpositive =>
      cases second with
      | infinity sign' => exact hsecond.elim
      | notANumber => exact hsecond.elim
      | zero sign' =>
          rw [unpackedValue_zero, mul_zero]
          exact isRounded_zero _
      | finite sign' mantissa' exponent' hpositive' =>
          have hrounded := isRounded_roundWithAccuracy (sign * sign') (exponent + exponent')
            (Nat.mul_pos hpositive hpositive') (mul_raised hfirst hsecond)
          have hvalue : ((sign * sign').apply (mantissa * mantissa' : ℕ) : ℚ) *
              2 ^ (exponent + exponent') = (sign.apply mantissa * 2 ^ exponent) *
                (sign'.apply mantissa' * 2 ^ exponent') := by
            rw [zpow_add₀ two_ne_zero, Int.natCast_mul, apply_mul, Int.cast_mul]
            ring
          rw [hvalue] at hrounded
          exact hrounded

section Result

variable {x y : Float}

theorem IsResult.isFinite {exact : ℚ} (hresult : IsResult exact x) : isFinite x = true :=
  (isFinite_iff_canonical x).mpr hresult.canonical

theorem isResult_sub (hx : isFinite x = true) (hy : isFinite y = true)
    (hsmall : |exactValue x - exactValue y| ≤ greatest) :
    IsResult (exactValue x - exactValue y) (x - y) :=
  (isRounded_sub ((isFinite_iff_canonical x).mp hx) ((isFinite_iff_canonical y).mp hy)).isResult
    hsmall

theorem isResult_mul (hx : isFinite x = true) (hy : isFinite y = true)
    (hsmall : |exactValue x * exactValue y| ≤ greatest) :
    IsResult (exactValue x * exactValue y) (x * y) :=
  (isRounded_mul ((isFinite_iff_canonical x).mp hx) ((isFinite_iff_canonical y).mp hy)).isResult
    hsmall

theorem IsResult.neg {exact : ℚ} (hresult : IsResult exact x) : IsResult (-exact) (-x) := by
  have hunpack : (-x).toModel.unpack = x.toModel.unpack.neg := by
    apply unpack_pack (canonical_neg hresult.canonical)
    rw [unpackedValue_neg, abs_neg]
    exact abs_exactValue_le hresult.isFinite
  unfold IsResult
  rw [hunpack]
  exact ⟨canonical_neg hresult.canonical, (unpackedValue_neg _) ▸ hresult.isNearest.neg⟩

theorem IsResult.eq_of_representable {exact : ℚ} (hresult : IsResult exact x)
    (hexact : Representable exact) : exactValue x = exact :=
  hresult.isNearest.eq_of_representable hexact

theorem isRounded_ofNat (count : ℕ) :
    IsRounded count (UnpackedFloat.ofNat Format.binary64 count) := by
  have hrounded := isRounded_normalize .positive 0 (count : ℤ)
  rw [zpow_zero, mul_one, Int.cast_natCast] at hrounded
  exact hrounded

theorem representable_natCast {count : ℕ} (hsize : count ≤ 2 * hiddenWeight) :
    Representable count := by
  refine ⟨count, 0, ?_, by decide, by simp⟩
  rw [Nat.abs_cast]
  exact_mod_cast hsize

/-- A natural number of at most 53 digits is converted as it is and then multiplied by one. -/
theorem isResult_ofNat_of_lt {count : ℕ} (hsize : count < 2 * hiddenWeight)
    (hsmall : |(count : ℚ)| ≤ greatest) : IsResult count (Float.ofNat count) := by
  have hweight : hiddenWeight = 2 ^ 52 := rfl
  have hword : count.toUInt64.toNat = count := by
    rw [UInt64.toNat_ofNat']
    exact Nat.mod_eq_of_lt (by omega)
  have hcount : IsResult count.toUInt64.toNat count.toUInt64.toFloat :=
    (isRounded_ofNat _).isResult (by rwa [hword])
  rw [hword] at hcount
  have hexact : exactValue count.toUInt64.toFloat = count :=
    hcount.eq_of_representable (representable_natCast hsize.le)
  have hparts : parts (Float.ofBits 0x3FF0000000000000) = .finite false hiddenWeight (-52) := by
    decide +kernel
  have hone : exactValue (Float.ofBits 0x3FF0000000000000) = 1 := by
    rw [exactValue_of_parts hparts]
    norm_num
  have hfinite : isFinite (Float.ofBits 0x3FF0000000000000) = true := by
    rw [isFinite, hparts]
  have hproduct := isResult_mul hcount.isFinite hfinite
    (by rwa [hone, mul_one, hexact])
  rw [hone, mul_one, hexact] at hproduct
  have hconverted : Float.ofNat count =
      count.toUInt64.toFloat * Float.ofBits 0x3FF0000000000000 := by
    change Float.ofScientific count false 0 = _
    unfold Float.ofScientific
    rw [dif_pos ⟨hsize, by decide⟩]
    rfl
  rwa [hconverted]

/-- A longer one is scaled up by a power of two before it is rounded. -/
theorem isResult_ofNat_of_le {count : ℕ} (hsize : 2 * hiddenWeight ≤ count)
    (hsmall : |(count : ℚ)| ≤ greatest) : IsResult count (Float.ofNat count) := by
  have hweight : hiddenWeight = 2 ^ 52 := rfl
  have hpositive : count ≠ 0 := by omega
  have hreach : ¬ (0 : ℤ) < -(2 ^ Format.binary64.exponentBits + (count.log2 : ℤ)) := by
    change ¬ (0 : ℤ) < -(2048 + (count.log2 : ℤ))
    omega
  have hconverted : Float.ofNat count = .ofModel (.pack (roundWithAccuracy Format.binary64 .positive
      (count <<< 53 * 1) (-53 + 0) .exact)) := by
    change Float.ofScientific count false 0 = _
    unfold Float.ofScientific
    rw [dif_neg (by omega)]
    change Float.ofModel (.pack (UnpackedFloat.ofScientific Format.binary64 count 0)) = _
    unfold UnpackedFloat.ofScientific
    rw [dif_neg hpositive, if_neg (by decide), if_neg hreach, if_pos le_rfl]
    rfl
  have hdigits : 53 ≤ count.log2 := (Nat.le_log2 hpositive).mpr hsize
  have hlog := log2_shiftLeft (Nat.pos_of_ne_zero hpositive) 53
  have hscaled : 0 < count <<< 53 * 1 := by
    rw [Nat.shiftLeft_eq]
    positivity
  have hrounded := isRounded_roundWithAccuracy .positive (-53 + 0) hscaled
    (by rw [Nat.mul_one]; omega)
  have hvalue : (Sign.positive.apply (count <<< 53 * 1 : ℕ) : ℚ) * 2 ^ (-53 + 0 : ℤ) = count := by
    rw [Sign.apply, Nat.shiftLeft_eq, Int.cast_natCast, Nat.mul_one, Nat.cast_mul, mul_assoc,
      Nat.cast_pow, Nat.cast_ofNat, ← zpow_natCast, ← zpow_add₀ two_ne_zero]
    exact mul_one _
  rw [hvalue] at hrounded
  rw [hconverted]
  exact hrounded.isResult hsmall

theorem isResult_ofNat {count : ℕ} (hsmall : |(count : ℚ)| ≤ greatest) :
    IsResult count (Float.ofNat count) := by
  by_cases hsize : count < 2 * hiddenWeight
  · exact isResult_ofNat_of_lt hsize hsmall
  · exact isResult_ofNat_of_le (not_lt.mp hsize) hsmall

theorem isResult_ofInt {whole : ℤ} (hsmall : |(whole : ℚ)| ≤ greatest) :
    IsResult whole (Float.ofInt whole) := by
  cases whole with
  | ofNat count =>
      rw [Int.ofNat_eq_natCast, Int.cast_natCast] at hsmall ⊢
      exact isResult_ofNat hsmall
  | negSucc count =>
      rw [Int.cast_negSucc] at hsmall ⊢
      rw [abs_neg] at hsmall
      exact (isResult_ofNat hsmall).neg

end Result

end AirQuality.Decimal
