import AirQuality.Proofs.Decimal.Number
import AirQuality.Proofs.Region

/-!
# Positions off the globe

A position is on the globe if both of its values are numbers within their bounds.  Any other is
found to be off it, but for those beyond reach: an integer too large for a binary64 number is not
compared with the bounds, because it fails in the test for NaN that stands before them.
-/

namespace AirQuality

open Outcome
open Decimal (Number)

/-! ### Values -/

/-- A value that is a number between two bounds. -/
def Json.IsBetween (low high : Int) (value : Json) : Prop :=
  ∃ number, value.asNumber? = some number ∧ Number.le (.whole low) number = true ∧
    Number.le number (.whole high) = true

/-- A value that is a number, whatever its size, and not NaN. -/
def Json.IsOrdered (value : Json) : Prop :=
  ∃ number, value.asNumber? = some number ∧ number.isNaN = false

/-- A value that is an integer too large for a binary64 number. -/
def Json.IsTooLarge (value : Json) : Prop :=
  ∃ number, value.asNumber? = some number ∧ number.isTooLarge = true

/-- NaN is not between any bounds. -/
theorem Json.IsBetween.isOrdered {low high : Int} {value : Json}
    (hbetween : value.IsBetween low high) : value.IsOrdered := by
  obtain ⟨number, hnumber, hlow, -⟩ := hbetween
  exact ⟨number, hnumber, (Number.isNaN_of_le hlow).2⟩

/-- What is between bounds that are within reach is within reach. -/
theorem Json.IsBetween.not_isTooLarge {low high : Int} {value : Json}
    (hlow : low.natAbs ≤ 2 * Decimal.signWeight) (hhigh : high.natAbs ≤ 2 * Decimal.signWeight)
    (hbetween : value.IsBetween low high) : ¬value.IsTooLarge := by
  rintro ⟨number, hnumber, hlarge⟩
  obtain ⟨same, hsame, habove, hbelow⟩ := hbetween
  obtain rfl := Option.some.inj (hnumber.symm.trans hsame)
  cases number with
  | real value => cases hlarge
  | whole count =>
      rw [Number.le_whole, decide_eq_true_iff] at habove hbelow
      have hsize : count.natAbs ≤ 2 * Decimal.signWeight := by omega
      simp [Number.isTooLarge, Decimal.ofInt?_of_natAbs_le hsize] at hlarge

namespace Coordinate

/-- A position with a latitude and a longitude. -/
structure IsOnGlobe (position : Coordinate) : Prop where
  latitude : position.latitude.IsBetween (-90) 90
  longitude : position.longitude.IsBetween (-180) 180

/-- A position with a value that is too large to look at, and is looked at: the latitude beside any
longitude that is not missing, or the longitude beside a number. -/
def IsBeyondReach (position : Coordinate) : Prop :=
  (position.latitude.IsTooLarge ∧ position.longitude.kind ≠ .null) ∨
    (position.longitude.IsTooLarge ∧ position.latitude.IsOrdered)

/-! ### The test for NaN -/

section

variable {value : Json}

theorem isNaN_of_isTooLarge (hlarge : value.IsTooLarge) :
    isNaN value = .error (.number .integerTooLarge) := by
  obtain ⟨number, hnumber, hlarge⟩ := hlarge
  simp only [isNaN, asNumber, hnumber, ok_bind, hlarge, if_true]

theorem isNaN_of_isOrdered (hordered : value.IsOrdered) (hreach : ¬value.IsTooLarge) :
    isNaN value = .ok false := by
  obtain ⟨number, hnumber, hnan⟩ := hordered
  have hreach : number.isTooLarge = false :=
    Bool.eq_false_iff.mpr fun hlarge => hreach ⟨number, hnumber, hlarge⟩
  simp only [isNaN, asNumber, hnumber, ok_bind, hreach, hnan]
  rfl

/-- A value that is no number, or NaN, is told from the numbers in one of two ways. -/
theorem isNaN_of_not_isOrdered (hunordered : ¬value.IsOrdered) :
    isNaN value = .ok true ∨ isNaN value = .error (.shape .notComparable) := by
  cases hnumber : value.asNumber? with
  | none =>
      right
      simp only [isNaN, asNumber, hnumber, error_bind]
  | some number =>
      left
      have hnan : number.isNaN = true :=
        Bool.of_not_eq_false fun hnan => hunordered ⟨number, hnumber, hnan⟩
      cases number with
      | whole count => cases hnan
      | real value =>
          simp only [isNaN, asNumber, hnumber, ok_bind, Number.isTooLarge, hnan]
          rfl

theorem isWithin_of_isOrdered (hordered : value.IsOrdered) (low high : Int) :
    ∃ within, isWithin (.whole low) (.whole high) value = .ok within ∧
      (within = true ↔ value.IsBetween low high) := by
  obtain ⟨number, hnumber, -⟩ := hordered
  refine ⟨Number.le (.whole low) number && Number.le number (.whole high), ?_, ?_⟩
  · simp only [isWithin, asNumber, hnumber, ok_bind, pure_eq_ok]
  · rw [Bool.and_eq_true]
    constructor
    · exact fun hwithin => ⟨number, hnumber, hwithin⟩
    · rintro ⟨same, hsame, hwithin⟩
      obtain rfl := Option.some.inj (hnumber.symm.trans hsame)
      exact hwithin

theorem exists_isWithin_of_isOrdered (hordered : value.IsOrdered) (low high : Number) :
    ∃ within, isWithin low high value = .ok within := by
  obtain ⟨number, hnumber, -⟩ := hordered
  refine ⟨low.le number && number.le high, ?_⟩
  simp only [isWithin, asNumber, hnumber, ok_bind, pure_eq_ok]

theorem kind_ne_null_of_isOrdered (hordered : value.IsOrdered) : value.kind ≠ .null := by
  obtain ⟨number, hnumber, -⟩ := hordered
  intro hnull
  cases value with
  | null => cases hnumber
  | _ => cases hnull

theorem isOrdered_of_isTooLarge (hlarge : value.IsTooLarge) : value.IsOrdered := by
  obtain ⟨number, hnumber, hlarge⟩ := hlarge
  cases number with
  | whole count => exact ⟨.whole count, hnumber, rfl⟩
  | real value => cases hlarge

end

/-! ### The test for positions -/

variable {position : Coordinate}

/-- Two numbers within reach are compared with the bounds. -/
theorem check_of_isOrdered (hlatitude : position.latitude.IsOrdered)
    (hlongitude : position.longitude.IsOrdered) (hnorth : ¬position.latitude.IsTooLarge)
    (heast : ¬position.longitude.IsTooLarge) :
    (position.IsOnGlobe → position.check = .ok ()) ∧
      (¬position.IsOnGlobe → position.check = .error position.invalid) := by
  obtain ⟨northward, hnorthward, hbetween⟩ := isWithin_of_isOrdered hlatitude (-90) 90
  obtain ⟨eastward, heastward, hacross⟩ := isWithin_of_isOrdered hlongitude (-180) 180
  have hpresent : ¬(position.latitude.kind = .null ∨ position.longitude.kind = .null) :=
    not_or.mpr ⟨kind_ne_null_of_isOrdered hlatitude, kind_ne_null_of_isOrdered hlongitude⟩
  have hcheck : position.check =
      if northward && eastward then .ok () else .error position.invalid := by
    simp only [check, if_neg hpresent, isNaN_of_isOrdered hlatitude hnorth,
      isNaN_of_isOrdered hlongitude heast, ok_bind, hnorthward, heastward]
    rfl
  have hglobe : (northward && eastward) = true ↔ position.IsOnGlobe := by
    rw [Bool.and_eq_true, hbetween, hacross]
    exact ⟨fun hboth => ⟨hboth.1, hboth.2⟩, fun hglobe => ⟨hglobe.latitude, hglobe.longitude⟩⟩
  rw [hcheck, ← hglobe]
  exact ⟨fun hon => if_pos hon, fun hoff => if_neg hoff⟩

theorem IsOnGlobe.check_eq_ok (hglobe : position.IsOnGlobe) : position.check = .ok () := by
  have hreach : 180 ≤ 2 * Decimal.signWeight := by decide +kernel
  exact (check_of_isOrdered hglobe.latitude.isOrdered hglobe.longitude.isOrdered
    (hglobe.latitude.not_isTooLarge (by omega) (by omega))
    (hglobe.longitude.not_isTooLarge (by omega) (by omega))).1 hglobe

theorem isValid_of_isOnGlobe (hglobe : position.IsOnGlobe) : position.isValid = .ok true := by
  simp only [isValid, hglobe.check_eq_ok]

/-- A position on the globe is in the box of a region or not. -/
theorem IsOnGlobe.exists_contains (hglobe : position.IsOnGlobe) (region : Region) :
    ∃ inside, region.contains position = .ok inside := by
  obtain ⟨northward, hnorthward⟩ :=
    exists_isWithin_of_isOrdered hglobe.latitude.isOrdered region.south region.north
  rw [Region.contains, hnorthward, ok_bind]
  cases northward with
  | true => exact exists_isWithin_of_isOrdered hglobe.longitude.isOrdered _ _
  | false => exact ⟨false, rfl⟩

/-- What is refused as an invalid coordinate, or cannot be compared, is not on the globe. -/
theorem isValid_of_check
    (hcheck : position.check = .error position.invalid ∨
      position.check = .error (.shape .notComparable)) : position.isValid = .ok false := by
  unfold isValid
  rcases hcheck with hcheck | hcheck
  · rw [hcheck]
    rfl
  · rw [hcheck]

/-- A position off the globe is found to be off it, unless it is beyond reach. -/
theorem isValid_of_not_isOnGlobe (hoff : ¬position.IsOnGlobe) (hreach : ¬position.IsBeyondReach) :
    position.isValid = .ok false := by
  apply isValid_of_check
  by_cases hnull : position.latitude.kind = .null ∨ position.longitude.kind = .null
  · left
    unfold check
    rw [if_pos hnull]
  obtain ⟨hlatitudeNull, hlongitudeNull⟩ := not_or.mp hnull
  obtain ⟨hlatitudeReach, hlongitudeReach⟩ := not_or.mp hreach
  by_cases hlatitude : position.latitude.IsOrdered
  case neg =>
    unfold check
    rw [if_neg hnull]
    rcases isNaN_of_not_isOrdered hlatitude with hnan | herror
    · rw [hnan]
      exact .inl rfl
    · rw [herror]
      exact .inr rfl
  have hnorth : ¬position.latitude.IsTooLarge := fun hlarge =>
    hlatitudeReach ⟨hlarge, hlongitudeNull⟩
  by_cases hlongitude : position.longitude.IsOrdered
  case neg =>
    unfold check
    rw [if_neg hnull, isNaN_of_isOrdered hlatitude hnorth, ok_bind]
    rcases isNaN_of_not_isOrdered hlongitude with hnan | herror
    · rw [hnan]
      exact .inl rfl
    · rw [herror]
      exact .inr rfl
  have heast : ¬position.longitude.IsTooLarge := fun hlarge => hlongitudeReach ⟨hlarge, hlatitude⟩
  exact .inl ((check_of_isOrdered hlatitude hlongitude hnorth heast).2 hoff)

theorem check_of_isBeyondReach (hbeyond : position.IsBeyondReach) :
    position.check = .error (.number .integerTooLarge) := by
  have hpresent : ¬(position.latitude.kind = .null ∨ position.longitude.kind = .null) := by
    rcases hbeyond with ⟨hlarge, hnull⟩ | ⟨hlarge, hordered⟩
    · exact not_or.mpr ⟨kind_ne_null_of_isOrdered (isOrdered_of_isTooLarge hlarge), hnull⟩
    · exact not_or.mpr ⟨kind_ne_null_of_isOrdered hordered,
        kind_ne_null_of_isOrdered (isOrdered_of_isTooLarge hlarge)⟩
  unfold check
  rw [if_neg hpresent]
  by_cases hnorth : position.latitude.IsTooLarge
  · rw [isNaN_of_isTooLarge hnorth, error_bind]
  · obtain ⟨heast, hlatitude⟩ := hbeyond.resolve_left fun hlarge => hnorth hlarge.1
    rw [isNaN_of_isOrdered hlatitude hnorth, ok_bind]
    simp only [Bool.false_eq_true, if_false]
    rw [isNaN_of_isTooLarge heast, error_bind]

/-- A position beyond reach fails in the test for positions. -/
theorem isValid_of_isBeyondReach (hbeyond : position.IsBeyondReach) :
    position.isValid = .error (.number .integerTooLarge) := by
  unfold isValid
  rw [check_of_isBeyondReach hbeyond]

/-- No position beyond reach is on the globe. -/
theorem IsOnGlobe.not_isBeyondReach (hglobe : position.IsOnGlobe) : ¬position.IsBeyondReach := by
  intro hbeyond
  have hvalid := isValid_of_isOnGlobe hglobe
  rw [isValid_of_isBeyondReach hbeyond] at hvalid
  cases hvalid

end Coordinate

end AirQuality
