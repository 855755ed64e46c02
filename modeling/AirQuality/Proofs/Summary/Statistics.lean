import Mathlib
import AirQuality.Proofs.Decimal.Binary64
import AirQuality.Proofs.Extremes
import AirQuality.Summary

/-!
# Extremes of values and the latest measurement

Numbers are ordered by their places, which both zeros share.  The least of some numbers, the
greatest of them and the latest of some measurements are each the first of those that no other
surpasses.
-/

namespace AirQuality

open Extremes

namespace Decimal

/-- The place of a number among all numbers; a value that is not a number is put with the zeros. -/
def place (value : Float) : Int := (rank? value).getD 0

theorem rank?_eq_some_place {value : Float} (hnumber : isNaN value = false) :
    rank? value = some (place value) := by
  unfold place
  rw [isNaN_eq_isNone] at hnumber
  cases hrank : rank? value with
  | none =>
      rw [hrank] at hnumber
      cases hnumber
  | some place => rfl

variable {first second : Float} (hfirst : isNaN first = false) (hsecond : isNaN second = false)
include hfirst hsecond

theorem lt_iff_place : lt first second = true ↔ place first < place second := by
  simp only [lt, rank?_eq_some_place hfirst, rank?_eq_some_place hsecond, decide_eq_true_eq]

theorem le_iff_place : le first second = true ↔ place first ≤ place second := by
  simp only [le, rank?_eq_some_place hfirst, rank?_eq_some_place hsecond, decide_eq_true_eq]

theorem equal_iff_place : equal first second = true ↔ place first = place second := by
  simp only [equal, rank?_eq_some_place hfirst, rank?_eq_some_place hsecond, beq_iff_eq]

end Decimal

namespace Statistics

open Decimal (isNaN place)

/-- Values that are all numbers. -/
def AreNumbers (values : List Float) : Prop := ∀ value ∈ values, isNaN value = false

theorem numbers_eq_self {values : List Float} (hnumbers : AreNumbers values) :
    numbers values = values := by
  apply List.filter_eq_self.mpr
  intro value hvalue
  rw [hnumbers value hvalue]
  rfl

theorem least?_eq_argmin {values : List Float} (hnumbers : AreNumbers values) :
    least? values = values.argmin place := by
  induction values with
  | nil => rfl
  | cons value rest ih =>
      obtain ⟨hvalue, hrest⟩ := List.forall_mem_cons.mp hnumbers
      rw [least?, hvalue, if_neg Bool.false_ne_true, ih hrest, List.argmin_cons]
      cases hleast : rest.argmin place with
      | none => rfl
      | some least =>
          have hmem : least ∈ rest := List.argmin_mem hleast
          simp only [Decimal.lt_iff_place (hrest least hmem) hvalue]

theorem greatest?_eq_argmax {values : List Float} (hnumbers : AreNumbers values) :
    greatest? values = values.argmax place := by
  induction values with
  | nil => rfl
  | cons value rest ih =>
      obtain ⟨hvalue, hrest⟩ := List.forall_mem_cons.mp hnumbers
      rw [greatest?, hvalue, if_neg Bool.false_ne_true, ih hrest, List.argmax_cons]
      cases hgreatest : rest.argmax place with
      | none => rfl
      | some greatest =>
          have hmem : greatest ∈ rest := List.argmax_mem hgreatest
          simp only [Decimal.lt_iff_place hvalue (hrest greatest hmem)]

/-! The least and the greatest of some numbers, of which there has to be one. -/

section Extremes

variable {values : List Float} (hnumbers : AreNumbers values) (hsome : values ≠ [])
include hnumbers hsome

theorem argmin_eq_some_least : values.argmin place = some (least values) := by
  unfold least
  rw [least?_eq_argmin hnumbers]
  cases hleast : values.argmin place with
  | none => exact absurd (List.argmin_eq_none.mp hleast) hsome
  | some least => rfl

theorem argmax_eq_some_greatest : values.argmax place = some (greatest values) := by
  unfold greatest
  rw [greatest?_eq_argmax hnumbers]
  cases hgreatest : values.argmax place with
  | none => exact absurd (List.argmax_eq_none.mp hgreatest) hsome
  | some greatest => rfl

theorem least_mem : least values ∈ values :=
  List.argmin_mem (argmin_eq_some_least hnumbers hsome)

theorem greatest_mem : greatest values ∈ values :=
  List.argmax_mem (argmax_eq_some_greatest hnumbers hsome)

theorem isNaN_least : isNaN (least values) = false := hnumbers _ (least_mem hnumbers hsome)

theorem isNaN_greatest : isNaN (greatest values) = false :=
  hnumbers _ (greatest_mem hnumbers hsome)

/-- No number is less than the least. -/
theorem least_le {value : Float} (hvalue : value ∈ values) :
    Decimal.le (least values) value = true := by
  apply (Decimal.le_iff_place (isNaN_least hnumbers hsome) (hnumbers value hvalue)).mpr
  exact List.le_of_mem_argmin hvalue (argmin_eq_some_least hnumbers hsome)

/-- No number is greater than the greatest. -/
theorem le_greatest {value : Float} (hvalue : value ∈ values) :
    Decimal.le value (greatest values) = true := by
  apply (Decimal.le_iff_place (hnumbers value hvalue) (isNaN_greatest hnumbers hsome)).mpr
  exact List.le_of_mem_argmax hvalue (argmax_eq_some_greatest hnumbers hsome)

end Extremes

end Statistics

theorem Summary.latest?_eq_argmax (measurements : List Measurement) :
    latest? measurements =
      measurements.argmax fun measurement => measurement.timestamp.instant := by
  induction measurements with
  | nil => rfl
  | cons measurement rest ih =>
      rw [latest?, ih, List.argmax_cons]
      cases rest.argmax fun measurement => measurement.timestamp.instant with
      | none => rfl
      | some other => rfl

end AirQuality
