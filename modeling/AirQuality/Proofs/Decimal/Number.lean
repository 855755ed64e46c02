import AirQuality.Decimal.Number
import AirQuality.Proofs.Decimal.Binary64

/-!
# The order of numbers of either kind

Numbers are in order one way or the other, whatever their kinds, unless one of them is not a number;
and such a one is in no order at all, not even with itself.
-/

namespace AirQuality.Decimal.Number

variable {first second : Number}

theorem compare?_eq_none_iff :
    compare? first second = none ↔ first.isNaN = true ∨ second.isNaN = true := by
  have hreal (value : Float) (count : Int) :
      compare?.realWithWhole value count = none ↔ Decimal.isNaN value = true := by
    unfold compare?.realWithWhole Decimal.isNaN
    cases parts value <;> simp
  cases first with
  | whole count =>
      cases second with
      | whole count' => simp [compare?, isNaN]
      | real value => simp [compare?, isNaN, hreal]
  | real value =>
      cases second with
      | whole count => simp [compare?, isNaN, hreal]
      | real value' =>
          simp only [compare?, isNaN, isNaN_eq_isNone]
          cases rank? value <;> cases rank? value' <;> simp

/-- Two numbers compare the other way round in the other order. -/
theorem compare?_swap (first second : Number) :
    compare? second first = (compare? first second).map Ordering.swap := by
  cases first with
  | whole count =>
      cases second with
      | whole count' => simp [compare?, Int.compare_swap]
      | real value =>
          simp only [compare?]
          cases compare?.realWithWhole value count <;> simp
  | real value =>
      cases second with
      | whole count => rfl
      | real value' =>
          simp only [compare?]
          cases rank? value <;> cases rank? value' <;> simp [Int.compare_swap]

/-- Of two numbers the first is at most the second, unless this is less. -/
theorem le_eq_not_lt (hfirst : first.isNaN = false) (hsecond : second.isNaN = false) :
    first.le second = !second.lt first := by
  rw [le, lt, compare?_swap first second]
  cases hcompare : compare? first second with
  | none =>
      rcases compare?_eq_none_iff.mp hcompare with hnan | hnan
      · rw [hfirst] at hnan
        cases hnan
      · rw [hsecond] at hnan
        cases hnan
  | some order => cases order <;> rfl

/-- What is in order is a number. -/
theorem isNaN_of_le (hle : first.le second = true) :
    first.isNaN = false ∧ second.isNaN = false := by
  have hnone : compare? first second ≠ none := by
    intro hnone
    rw [le, hnone] at hle
    cases hle
  rwa [Ne, compare?_eq_none_iff, not_or, Bool.not_eq_true, Bool.not_eq_true] at hnone

theorem le_self (hnumber : first.isNaN = false) : first.le first = true := by
  have hswap := compare?_swap first first
  rw [le_eq_not_lt hnumber hnumber, lt]
  cases hcompare : compare? first first with
  | none => rfl
  | some order =>
      rw [hcompare] at hswap
      cases order with
      | lt => cases hswap
      | _ => rfl

end AirQuality.Decimal.Number
