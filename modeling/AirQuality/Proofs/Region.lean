import AirQuality.Proofs.Decimal.Binary64
import AirQuality.Proofs.Outcome
import AirQuality.Region

/-!
# Positions

A position of whole degrees on the globe is accepted.  Looking at a position never counts as a
cancellation, whatever it fails with.
-/

namespace AirQuality

open Outcome
open Decimal (Number)

theorem Decimal.Number.le_whole (a b : Int) :
    Number.le (.whole a) (.whole b) = decide (a ≤ b) := by
  rw [Bool.eq_iff_iff, decide_eq_true_iff]
  simp only [Number.le, compare?, Option.any_some, compare, compareOfLessAndEq]
  by_cases hless : a < b
  · simp only [if_pos hless]
    exact iff_of_true rfl (Int.le_of_lt hless)
  · by_cases hequal : a = b
    · simp only [if_neg hless, if_pos hequal]
      exact iff_of_true rfl (Int.le_of_eq hequal)
    · simp only [if_neg hless, if_neg hequal]
      apply iff_of_false Bool.false_ne_true
      intro hle
      exact hless (Int.lt_iff_le_and_ne.mpr ⟨hle, hequal⟩)

namespace Coordinate

theorem isNaN_int {value : Int} (hsize : value.natAbs ≤ 2 * Decimal.signWeight) :
    isNaN (.int value) = .ok false := by
  simp only [isNaN, asNumber, Json.asNumber?, ok_bind, Number.isTooLarge,
    Decimal.ofInt?_of_natAbs_le hsize]
  rfl

theorem isWithin_int (low high value : Int) :
    isWithin (.whole low) (.whole high) (.int value) =
      .ok (decide (low ≤ value) && decide (value ≤ high)) := by
  simp only [isWithin, asNumber, Json.asNumber?, ok_bind, Number.le_whole, pure_eq_ok]

theorem check_int {latitude longitude : Int} (hlatitude : latitude.natAbs ≤ 90)
    (hlongitude : longitude.natAbs ≤ 180) :
    check ⟨.int latitude, .int longitude⟩ = .ok () := by
  have hreach : 180 ≤ 2 * Decimal.signWeight := by decide +kernel
  have hnorth : isNaN (.int latitude) = .ok false := isNaN_int (by omega)
  have heast : isNaN (.int longitude) = .ok false := isNaN_int (by omega)
  have hlow : decide (-90 ≤ latitude) = true := decide_eq_true (by omega)
  have hhigh : decide (latitude ≤ 90) = true := decide_eq_true (by omega)
  have hwest : decide (-180 ≤ longitude) = true := decide_eq_true (by omega)
  have hfar : decide (longitude ≤ 180) = true := decide_eq_true (by omega)
  simp [check, Json.kind, hnorth, heast, isWithin_int, hlow, hhigh, hwest, hfar]

theorem uncancelled_asNumber (value : Json) : Uncancelled (asNumber value) := by
  unfold asNumber
  cases value.asNumber? with
  | some number => exact uncancelled_ok number
  | none => exact uncancelled_error rfl

theorem uncancelled_isWithin (low high : Decimal.Number) (value : Json) :
    Uncancelled (isWithin low high value) :=
  (uncancelled_asNumber value).bind fun _ => uncancelled_ok _

theorem uncancelled_isNaN (value : Json) : Uncancelled (isNaN value) := by
  apply (uncancelled_asNumber value).bind
  intro number
  by_cases hlarge : number.isTooLarge
  · rw [if_pos hlarge]
    exact uncancelled_error rfl
  · rw [if_neg hlarge]
    exact uncancelled_ok _

theorem uncancelled_check (coordinate : Coordinate) : Uncancelled coordinate.check := by
  unfold check
  by_cases hnull : coordinate.latitude.kind = .null ∨ coordinate.longitude.kind = .null
  · rw [if_pos hnull]
    exact uncancelled_error rfl
  · rw [if_neg hnull]
    apply (uncancelled_isNaN _).bind
    intro isLatitudeNaN
    cases isLatitudeNaN with
    | true => exact uncancelled_error rfl
    | false =>
        apply (uncancelled_isNaN _).bind
        intro isLongitudeNaN
        cases isLongitudeNaN with
        | true => exact uncancelled_error rfl
        | false =>
            apply (uncancelled_isWithin _ _ _).bind
            intro northward
            apply (uncancelled_isWithin _ _ _).bind
            intro eastward
            cases northward && eastward with
            | true => exact uncancelled_ok ()
            | false => exact uncancelled_error rfl

theorem uncancelled_isValid (coordinate : Coordinate) : Uncancelled coordinate.isValid := by
  have hcheck := uncancelled_check coordinate
  unfold isValid
  split
  · exact uncancelled_ok true
  · exact uncancelled_ok false
  · exact uncancelled_ok false
  · next failure _ _ herror => exact uncancelled_error (hcheck failure herror)

end Coordinate

theorem Region.uncancelled_holds (region : Region) (position : Coordinate) :
    Uncancelled (region.holds position) := by
  apply (Coordinate.uncancelled_check position).bind
  intro _
  apply (Coordinate.uncancelled_isWithin _ _ _).bind
  intro isBetween
  cases isBetween with
  | true => exact Coordinate.uncancelled_isWithin _ _ _
  | false => exact uncancelled_ok false

end AirQuality
