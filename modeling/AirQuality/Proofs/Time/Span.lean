import AirQuality.Proofs.Decimal.Order
import AirQuality.Proofs.Outcome
import AirQuality.Time.Span

/-!
# More days are not a shorter span

A number of days is its whole days and a part of a day, which has the sign of the number and is
exact.  The microseconds of the part are rounded twice, to a binary64 number and to an integer,
each time to one of the nearest, so that they stay within a day and in order.  What lies more
days before a moment is therefore not after what lies fewer days before it.
-/

namespace AirQuality.Time

open Outcome
open Decimal

/-! ### Whole days and the part of a day -/

/-- A number without its fraction, which is on the side of zero. -/
def IsTruncation (number : ℚ) (whole : ℤ) : Prop :=
  (0 ≤ whole ∧ (whole : ℚ) ≤ number ∧ number < whole + 1) ∨
    (whole ≤ 0 ∧ (whole - 1 : ℚ) < number ∧ number ≤ whole)

theorem isTruncation_intCast (whole : ℤ) : IsTruncation whole whole := by
  cases le_total 0 whole with
  | inl hpositive => exact Or.inl ⟨hpositive, le_rfl, lt_add_one _⟩
  | inr hnegative => exact Or.inr ⟨hnegative, sub_one_lt _, le_rfl⟩

theorem IsTruncation.neg {number : ℚ} {whole : ℤ} (htruncation : IsTruncation number whole) :
    IsTruncation (-number) (-whole) := by
  unfold IsTruncation at *
  push_cast
  cases htruncation with
  | inl hpositive => exact Or.inr ⟨by omega, by linarith, by linarith⟩
  | inr hnegative => exact Or.inl ⟨by omega, by linarith, by linarith⟩

theorem IsTruncation.mono {number number' : ℚ} {whole whole' : ℤ}
    (htruncation : IsTruncation number whole) (htruncation' : IsTruncation number' whole')
    (hle : number ≤ number') : whole ≤ whole' := by
  have hnext : (whole : ℚ) < whole' + 1 → whole ≤ whole' := by
    intro hless
    have hinteger : whole < whole' + 1 := by exact_mod_cast hless
    omega
  cases htruncation with
  | inl hpositive =>
      cases htruncation' with
      | inl hpositive' => exact hnext (by linarith)
      | inr hnegative' => exact hnext (by linarith)
  | inr hnegative =>
      cases htruncation' with
      | inl hpositive' => exact hnegative.1.trans hpositive'.1
      | inr hnegative' => exact hnext (by linarith)

theorem IsTruncation.abs_sub_le {number : ℚ} {whole : ℤ} (htruncation : IsTruncation number whole) :
    |number - whole| ≤ 1 := by
  rw [abs_le]
  cases htruncation with
  | inl hpositive => constructor <;> linarith
  | inr hnegative => constructor <;> linarith

theorem exists_shiftInteger {mantissa : ℕ} {exponent : ℤ} (hsize : mantissa < 2 * hiddenWeight)
    (hleast : -1074 ≤ exponent) :
    IsTruncation (mantissa * 2 ^ exponent) (shiftInteger mantissa exponent) ∧
      Representable (shiftInteger mantissa exponent) ∧
      Representable (mantissa * 2 ^ exponent - shiftInteger mantissa exponent) := by
  have hmantissa : |(mantissa : ℤ)| ≤ 2 * hiddenWeight := by
    rw [Nat.abs_cast]
    exact_mod_cast hsize.le
  unfold shiftInteger
  by_cases hwhole : 0 ≤ exponent
  · have hvalue : ((mantissa * twoTo exponent.toNat : ℕ) : ℚ) = mantissa * 2 ^ exponent := by
      rw [Nat.cast_mul, natCast_twoTo, ← zpow_natCast, Int.toNat_of_nonneg hwhole]
    rw [if_pos hwhole, hvalue, sub_self]
    refine ⟨Or.inl ⟨Int.natCast_nonneg _, ?_, ?_⟩, ⟨mantissa, exponent, hmantissa, hleast, ?_⟩,
      representable_zero⟩
    · rw [Int.cast_natCast, hvalue]
    · rw [Int.cast_natCast, hvalue]
      exact lt_add_one _
    · rw [Int.cast_natCast]
  · have hunit : (twoTo (-exponent).toNat : ℚ) * 2 ^ exponent = 1 := by
      rw [natCast_twoTo, ← zpow_natCast, Int.toNat_of_nonneg (by omega),
        ← zpow_add₀ two_ne_zero, neg_add_cancel, zpow_zero]
    have hpositive : 0 < twoTo (-exponent).toNat := Nat.two_pow_pos _
    rw [if_neg hwhole]
    generalize twoTo (-exponent).toNat = unit at hunit hpositive ⊢
    have hscale : (0 : ℚ) < 2 ^ exponent := by positivity
    have hsplit : (mantissa : ℚ) * 2 ^ exponent =
        (mantissa / unit : ℕ) + (mantissa % unit : ℕ) * 2 ^ exponent := by
      have hdivision : (unit * (mantissa / unit : ℕ) + (mantissa % unit : ℕ) : ℚ) = mantissa := by
        exact_mod_cast Nat.div_add_mod mantissa unit
      rw [← hdivision, add_mul, mul_right_comm, hunit, one_mul]
    have hbelow : ((mantissa % unit : ℕ) : ℚ) * 2 ^ exponent < 1 := by
      rw [← hunit]
      exact mul_lt_mul_of_pos_right (by exact_mod_cast Nat.mod_lt mantissa hpositive) hscale
    have hrest : ((mantissa % unit : ℕ) : ℤ) ≤ 2 * hiddenWeight := by
      exact_mod_cast ((Nat.mod_le mantissa unit).trans hsize.le)
    rw [hsplit, add_sub_cancel_left]
    refine ⟨Or.inl ⟨Int.natCast_nonneg _, ?_, ?_⟩,
      representable_natCast ((Nat.div_le_self mantissa unit).trans hsize.le),
      ⟨(mantissa % unit : ℕ), exponent, ?_, hleast, ?_⟩⟩
    · rw [Int.cast_natCast]
      exact le_add_of_nonneg_right (by positivity)
    · rw [Int.cast_natCast]
      exact add_lt_add_right hbelow _
    · rwa [Nat.abs_cast]
    · rw [Int.cast_natCast]

theorem IsTruncation.abs_le {number : ℚ} {whole : ℤ} (htruncation : IsTruncation number whole) :
    |(whole : ℚ)| ≤ |number| := by
  cases htruncation with
  | inl hpositive =>
      have hwhole : (0 : ℚ) ≤ whole := Int.cast_nonneg hpositive.1
      rw [abs_of_nonneg hwhole]
      exact hpositive.2.1.trans (le_abs_self number)
  | inr hnegative =>
      have hwhole : (whole : ℚ) ≤ 0 := Int.cast_nonpos.mpr hnegative.1
      rw [abs_of_nonpos hwhole]
      exact (neg_le_neg hnegative.2.2).trans (neg_le_abs number)

/-- The integer part of a finite number, and what is left of it, lose nothing in binary64. -/
theorem exists_truncate {x : Float} (hfinite : isFinite x = true) :
    ∃ whole, truncate? x = some whole ∧ IsTruncation (exactValue x) whole ∧
      Representable whole ∧ Representable (exactValue x - whole) := by
  obtain ⟨negative, mantissa, exponent, hparts⟩ := exists_parts hfinite
  obtain ⟨hsize, hleast⟩ := bounds_of_parts hparts
  obtain ⟨htruncation, hwhole, hrest⟩ := exists_shiftInteger hsize hleast
  rw [exactValue_of_parts hparts]
  unfold truncate?
  rw [hparts]
  cases negative with
  | false => exact ⟨_, rfl, htruncation, hwhole, hrest⟩
  | true =>
      refine ⟨_, rfl, ?_, ?_, ?_⟩
      · simpa using htruncation.neg
      · simpa using hwhole.neg
      · simpa [add_comm, sub_eq_add_neg] using hrest.neg

theorem binaryFraction_eq (mantissa : ℕ) (exponent : ℤ) :
    0 < (binaryFraction mantissa exponent).2 ∧
      ((binaryFraction mantissa exponent).1 : ℚ) =
        mantissa * 2 ^ exponent * (binaryFraction mantissa exponent).2 := by
  unfold binaryFraction
  by_cases hwhole : 0 ≤ exponent
  · rw [if_pos hwhole]
    refine ⟨one_pos, ?_⟩
    rw [Nat.cast_mul, natCast_twoTo, ← zpow_natCast, Int.toNat_of_nonneg hwhole, Nat.cast_one,
      mul_one]
  · rw [if_neg hwhole]
    refine ⟨Nat.two_pow_pos _, ?_⟩
    rw [natCast_twoTo, mul_assoc, ← zpow_natCast, Int.toNat_of_nonneg (by omega),
      ← zpow_add₀ two_ne_zero, add_neg_cancel, zpow_zero, mul_one]

/-- The nearest integer is at most a half away. -/
theorem abs_nearestInt_sub_le {x : Float} (hfinite : isFinite x = true) :
    |(nearestInt x : ℚ) - exactValue x| ≤ 1 / 2 := by
  obtain ⟨negative, mantissa, exponent, hparts⟩ := exists_parts hfinite
  obtain ⟨hpositive, hfraction⟩ := binaryFraction_eq mantissa exponent
  have hnear := abs_roundDiv_mul_sub_le (binaryFraction mantissa exponent).1 hpositive
  have hunit : (0 : ℚ) < (binaryFraction mantissa exponent).2 := Nat.cast_pos.mpr hpositive
  have hsize : |(roundDiv (binaryFraction mantissa exponent).1
      (binaryFraction mantissa exponent).2 : ℚ) - mantissa * 2 ^ exponent| ≤ 1 / 2 := by
    rw [hfraction, ← sub_mul, abs_mul, abs_of_pos hunit, div_eq_inv_mul] at hnear
    rw [one_div]
    exact le_of_mul_le_mul_right hnear hunit
  unfold nearestInt
  rw [exactValue_of_parts hparts, hparts]
  cases negative with
  | false => simpa using hsize
  | true =>
      rw [abs_sub_comm] at hsize
      simpa [add_comm, sub_eq_add_neg] using hsize

theorem nearestInt_le_of_le {x : Float} (hfinite : isFinite x = true) {bound : ℤ}
    (hle : exactValue x ≤ bound) : nearestInt x ≤ bound := by
  have hnear := abs_le.mp (abs_nearestInt_sub_le hfinite)
  have hclose : (nearestInt x : ℚ) < bound + 1 := by linarith
  have hinteger : nearestInt x < bound + 1 := by exact_mod_cast hclose
  omega

theorem le_nearestInt_of_le {x : Float} (hfinite : isFinite x = true) {bound : ℤ}
    (hle : bound ≤ exactValue x) : bound ≤ nearestInt x := by
  have hnear := abs_le.mp (abs_nearestInt_sub_le hfinite)
  have hclose : (bound : ℚ) < nearestInt x + 1 := by linarith
  have hinteger : bound < nearestInt x + 1 := by exact_mod_cast hclose
  omega

theorem nearestInt_eq {x : Float} (hfinite : isFinite x = true) {whole : ℤ}
    (hvalue : exactValue x = whole) : nearestInt x = whole :=
  le_antisymm (nearestInt_le_of_le hfinite hvalue.le) (le_nearestInt_of_le hfinite hvalue.ge)

/-- Nearest integers keep the order: numbers that are less than one apart leave no room for a
crossing. -/
theorem nearestInt_le {x y : Float} (hx : isFinite x = true) (hy : isFinite y = true)
    (hle : exactValue x ≤ exactValue y) : nearestInt x ≤ nearestInt y := by
  have hnear := abs_le.mp (abs_nearestInt_sub_le hx)
  have hnear' := abs_le.mp (abs_nearestInt_sub_le hy)
  cases hle.lt_or_eq with
  | inl hless =>
      have hclose : (nearestInt x : ℚ) < nearestInt y + 1 := by linarith
      have hinteger : nearestInt x < nearestInt y + 1 := by exact_mod_cast hclose
      omega
  | inr hequal =>
      cases eq_of_exactValue_eq hx hy hequal with
      | inl hsame => rw [hsame]
      | inr hzero =>
          rw [← Int.cast_zero] at hzero
          rw [nearestInt_eq hx hzero, nearestInt_eq hy (hequal ▸ hzero)]

/-! ### Spans -/

/-- The whole days of a number of days and the microseconds of the part of a day. -/
structure Splits (days : ℚ) (whole : ℤ) (part : Float) : Prop where
  truncation : IsTruncation days whole
  result : IsResult ((days - whole) * microsPerDay) part

theorem isFinite_of_truncate? {x : Float} {whole : ℤ} (htruncate : truncate? x = some whole) :
    isFinite x = true := by
  unfold truncate? at htruncate
  unfold isFinite
  cases hparts : parts x with
  | notANumber => rw [hparts] at htruncate; cases htruncate
  | infinite negative => rw [hparts] at htruncate; cases htruncate
  | finite negative mantissa exponent => rfl

theorem representable_microsPerDay : Representable microsPerDay :=
  ⟨microsPerDay, 0, by decide, by decide, by rw [zpow_zero, mul_one]⟩

theorem one_le_greatest : 1 ≤ greatest := by
  rw [← Nat.cast_one]
  exact natCast_le_greatest (by decide)

theorem microsPerDay_le_greatest : (microsPerDay : ℚ) ≤ greatest := by
  have hday : (microsPerDay : ℚ) = (86400000000 : ℕ) := rfl
  rw [hday]
  exact natCast_le_greatest (by decide)

theorem exactValue_microsPerDay : isFinite (Float.ofInt microsPerDay) = true ∧
    exactValue (Float.ofInt microsPerDay) = microsPerDay := by
  have hresult : IsResult microsPerDay (Float.ofInt microsPerDay) := by
    apply isResult_ofInt
    rw [abs_of_nonneg (by decide)]
    exact microsPerDay_le_greatest
  exact ⟨hresult.isFinite, hresult.eq_of_representable representable_microsPerDay⟩

/-- The part of a day is exact before it is multiplied, and the product is a nearest one. -/
theorem splits_real {x : Float} {whole : ℤ} (htruncate : truncate? x = some whole) :
    Splits (exactValue x) whole ((x - Float.ofInt whole) * Float.ofInt microsPerDay) := by
  have hfinite := isFinite_of_truncate? htruncate
  obtain ⟨whole', htruncate', htruncation, hwhole, hrest⟩ := exists_truncate hfinite
  obtain rfl : whole' = whole := Option.some.inj (htruncate'.symm.trans htruncate)
  obtain ⟨hdayFinite, hday⟩ := exactValue_microsPerDay
  have hresult : IsResult whole' (Float.ofInt whole') :=
    isResult_ofInt (htruncation.abs_le.trans (abs_exactValue_le hfinite))
  have hinteger := hresult.eq_of_representable hwhole
  have hdifference : IsResult (exactValue x - whole') (x - Float.ofInt whole') := by
    rw [← hinteger]
    apply isResult_sub hfinite hresult.isFinite
    rw [hinteger]
    exact htruncation.abs_sub_le.trans one_le_greatest
  have hpart := hdifference.eq_of_representable hrest
  constructor
  · exact htruncation
  · rw [← hpart, ← hday]
    apply isResult_mul hdifference.isFinite hdayFinite
    have hpositive : (0 : ℚ) ≤ microsPerDay := by decide
    rw [hpart, hday, abs_mul, abs_of_nonneg hpositive]
    exact (mul_le_of_le_one_left hpositive htruncation.abs_sub_le).trans microsPerDay_le_greatest

theorem exists_splits {days : Number} {micros : ℤ} (hmicros : microsOfDays days = .ok micros) :
    ∃ exact, days.value? = some exact ∧
      ∃ whole part, Splits exact whole part ∧ micros = whole * microsPerDay + nearestInt part := by
  cases days with
  | whole count =>
      have hzero : IsResult ((0 : ℤ) : ℚ) (Float.ofInt 0) := by
        apply isResult_ofInt
        rw [Int.cast_zero, abs_zero]
        exact zero_le_one.trans one_le_greatest
      have hpart : nearestInt (Float.ofInt 0) = 0 :=
        nearestInt_eq hzero.isFinite (hzero.eq_of_representable (by simpa using representable_zero))
      refine ⟨count, rfl, count, Float.ofInt 0, ⟨isTruncation_intCast count, ?_⟩, ?_⟩
      · rw [sub_self, zero_mul, ← Int.cast_zero]
        exact hzero
      · simp only [microsOfDays, Except.ok.injEq] at hmicros
        rw [← hmicros, hpart, add_zero]
  | real count =>
      cases htruncate : truncate? count with
      | none => simp only [microsOfDays, htruncate, reduceCtorEq] at hmicros
      | some whole =>
          simp only [microsOfDays, htruncate, Except.ok.injEq] at hmicros
          exact ⟨exactValue count,
            Number.value?_real_eq_some.mpr ⟨isFinite_of_truncate? htruncate, rfl⟩,
            whole, _, splits_real htruncate, hmicros.symm⟩

section Order

variable {days days' : ℚ} {whole whole' : ℤ} {part part' : Float}

/-- The part of a day has the sign of the number and is not longer than a day. -/
theorem Splits.bounds (hsplits : Splits days whole part) :
    (0 ≤ whole ∧ 0 ≤ nearestInt part ∧ nearestInt part ≤ microsPerDay) ∨
      (whole ≤ 0 ∧ -microsPerDay ≤ nearestInt part ∧ nearestInt part ≤ 0) := by
  have hfinite := hsplits.result.isFinite
  have hnearest : IsNearest ((days - whole) * microsPerDay) (exactValue part) :=
    hsplits.result.isNearest
  have hday : (0 : ℚ) ≤ microsPerDay := by decide
  cases hsplits.truncation with
  | inl hpositive =>
      obtain ⟨hwhole, hlow, hhigh⟩ := hpositive
      have hleast := hnearest.ge_of_ge representable_zero
        (mul_nonneg (sub_nonneg.mpr hlow) hday)
      have hmost := hnearest.le_of_le representable_microsPerDay
        (mul_le_of_le_one_left hday (by linarith))
      exact Or.inl ⟨hwhole, le_nearestInt_of_le hfinite (by simpa using hleast),
        nearestInt_le_of_le hfinite hmost⟩
  | inr hnegative =>
      obtain ⟨hwhole, hlow, hhigh⟩ := hnegative
      have hmost := hnearest.le_of_le representable_zero
        (mul_nonpos_of_nonpos_of_nonneg (sub_nonpos.mpr hhigh) hday)
      have hleast := hnearest.ge_of_ge representable_microsPerDay.neg (by nlinarith)
      exact Or.inr ⟨hwhole, le_nearestInt_of_le hfinite (by simpa using hleast),
        nearestInt_le_of_le hfinite (by simpa using hmost)⟩

theorem Splits.le_of_lt (hsplits : Splits days whole part) (hsplits' : Splits days' whole' part')
    (hless : days < days') :
    whole * microsPerDay + nearestInt part ≤ whole' * microsPerDay + nearestInt part' := by
  have hday : (0 : ℤ) < microsPerDay := by decide
  cases (hsplits.truncation.mono hsplits'.truncation hless.le).lt_or_eq with
  | inl hwhole =>
      have hstep : whole * microsPerDay + microsPerDay ≤ whole' * microsPerDay := by
        have hproduct := mul_le_mul_of_nonneg_right (show whole + 1 ≤ whole' by omega) hday.le
        rwa [add_mul, one_mul] at hproduct
      cases hsplits.bounds with
      | inl hpositive =>
          cases hsplits'.bounds with
          | inl hpositive' => linarith
          | inr hnegative' => omega
      | inr hnegative =>
          cases hsplits'.bounds with
          | inl hpositive' => linarith
          | inr hnegative' => linarith
  | inr hwhole =>
      subst hwhole
      have hproduct : (days - whole) * microsPerDay < (days' - whole) * microsPerDay :=
        mul_lt_mul_of_pos_right (sub_lt_sub_right hless _) (by exact_mod_cast hday)
      have hparts : exactValue part ≤ exactValue part' :=
        hsplits.result.isNearest.le_of_lt hsplits'.result.isNearest hproduct
      have hnearest := nearestInt_le hsplits.result.isFinite hsplits'.result.isFinite hparts
      exact add_le_add_right hnearest _

theorem Splits.eq_of_intCast {count : ℤ} (hsplits : Splits count whole part) :
    whole * microsPerDay + nearestInt part = count * microsPerDay := by
  have hwhole : whole = count := le_antisymm
    (hsplits.truncation.mono (isTruncation_intCast count) le_rfl)
    ((isTruncation_intCast count).mono hsplits.truncation le_rfl)
  subst hwhole
  have hresult := hsplits.result
  rw [sub_self, zero_mul] at hresult
  have hpart : exactValue part = (0 : ℤ) := by
    rw [Int.cast_zero]
    exact hresult.eq_of_representable representable_zero
  rw [nearestInt_eq hresult.isFinite hpart, add_zero]

end Order

/-- Numbers of days that stand for the same have the same microseconds, whatever their kind. -/
theorem microsOfDays_unique {days days' : Number} {exact : ℚ} {micros micros' : ℤ}
    (hdays : days.value? = some exact) (hdays' : days'.value? = some exact)
    (hmicros : microsOfDays days = .ok micros) (hmicros' : microsOfDays days' = .ok micros') :
    micros = micros' := by
  have hwhole {count : ℤ} (hcount : exact = count) {days : Number} {micros : ℤ}
      (hdays : days.value? = some exact) (hmicros : microsOfDays days = .ok micros) :
      micros = count * microsPerDay := by
    obtain ⟨exact', hexact, whole, part, hsplits, rfl⟩ := exists_splits hmicros
    obtain rfl : exact' = count := Option.some.inj (hexact.symm.trans (hcount ▸ hdays))
    exact hsplits.eq_of_intCast
  by_cases hinteger : ∃ count : ℤ, exact = count
  · obtain ⟨count, hcount⟩ := hinteger
    rw [hwhole hcount hdays hmicros, hwhole hcount hdays' hmicros']
  · cases days with
    | whole count => exact absurd ⟨count, (Option.some.inj hdays).symm⟩ hinteger
    | real value =>
        cases days' with
        | whole count => exact absurd ⟨count, (Option.some.inj hdays').symm⟩ hinteger
        | real value' =>
            obtain ⟨hfinite, hvalue⟩ := Number.value?_real_eq_some.mp hdays
            obtain ⟨hfinite', hvalue'⟩ := Number.value?_real_eq_some.mp hdays'
            cases eq_of_exactValue_eq hfinite hfinite' (hvalue.trans hvalue'.symm) with
            | inl hsame =>
                subst hsame
                exact Except.ok.inj (hmicros.symm.trans hmicros')
            | inr hzero => exact absurd ⟨0, by rw [← hvalue, hzero, Int.cast_zero]⟩ hinteger

theorem microsOfDays_le {days days' : Number} {micros micros' : ℤ} (hle : days.le days' = true)
    (hmicros : microsOfDays days = .ok micros) (hmicros' : microsOfDays days' = .ok micros') :
    micros ≤ micros' := by
  obtain ⟨exact, hexact, whole, part, hsplits, heq⟩ := exists_splits hmicros
  obtain ⟨exact', hexact', whole', part', hsplits', heq'⟩ := exists_splits hmicros'
  cases (Number.exact_le_of_le hexact hexact' hle).lt_or_eq with
  | inl hless =>
      rw [heq, heq']
      exact hsplits.le_of_lt hsplits' hless
  | inr hequal =>
      subst hequal
      exact (microsOfDays_unique hexact hexact' hmicros hmicros').le

theorem microsOfDays_of_span {days : Number} {micros : ℤ} (hspan : span days = .ok micros) :
    microsOfDays days = .ok micros := by
  obtain ⟨micros', hmicros, hlimits⟩ := bind_eq_ok hspan
  have hsame : micros' = micros := by
    dsimp only at hlimits
    split_ifs at hlimits
    exact Except.ok.inj hlimits
  rw [hmicros, hsame]

theorem Moment.daysBefore_eq_ok {now moment : Moment} {days : Number}
    (hbefore : now.daysBefore days = .ok moment) :
    ∃ micros, microsOfDays days = .ok micros ∧ moment.instant = now.instant - micros := by
  obtain ⟨micros, hspan, hmoment⟩ := bind_eq_ok hbefore
  refine ⟨micros, microsOfDays_of_span hspan, ?_⟩
  unfold Moment.before at hmoment
  dsimp only at hmoment
  split_ifs at hmoment
  cases hmoment
  simp only [Moment.instant]
  omega

/-- What lies more days before a moment is not after what lies fewer days before it. -/
theorem Moment.instant_daysBefore_le {now earlier later : Moment} {days days' : Number}
    (hle : days.le days' = true) (hlater : now.daysBefore days = .ok later)
    (hearlier : now.daysBefore days' = .ok earlier) : earlier.instant ≤ later.instant := by
  obtain ⟨micros, hmicros, hinstant⟩ := Moment.daysBefore_eq_ok hlater
  obtain ⟨micros', hmicros', hinstant'⟩ := Moment.daysBefore_eq_ok hearlier
  have hspans := microsOfDays_le hle hmicros hmicros'
  omega

end AirQuality.Time
