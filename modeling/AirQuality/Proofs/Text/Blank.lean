import AirQuality.Text.Blank
import Mathlib.Data.List.DropRight

/-!
# Trimmed texts

Trimming takes from the two ends of a text what is to be trimmed, and nothing else.  So a text that
is trimmed already stays as it is, and what is to be trimmed may be put around a text without a
difference.  A text may also be trimmed before or after its characters are spread over several, if
what stands for a character is trimmed when the character is.
-/

namespace AirQuality.Text

variable {selects : Char → Bool} {text before after : List Char} {c : Char}

theorem trimBoth_eq_rdropWhile (selects : Char → Bool) (text : List Char) :
    trimBoth selects text = (text.dropWhile selects).rdropWhile selects := rfl

theorem trimBoth_eq_self (hnone : ∀ c ∈ text, selects c = false) :
    trimBoth selects text = text := by
  have hfront : text.dropWhile selects = text := by
    cases text with
    | nil => rfl
    | cons c rest => exact List.dropWhile_cons_of_neg (by simp [hnone c])
  rw [trimBoth_eq_rdropWhile, hfront, List.rdropWhile_eq_self_iff]
  exact fun hne => by simp [hnone _ (List.getLast_mem hne)]

/-- Trimming keeps what stands at the front if it is not trimmed itself. -/
theorem trimBoth_cons (hkept : selects c = false) (rest : List Char) :
    ∃ others, trimBoth selects (c :: rest) = c :: others := by
  have hfront : (c :: rest).dropWhile selects = c :: rest :=
    List.dropWhile_cons_of_neg (by simp [hkept])
  rw [trimBoth, hfront, List.reverse_cons, List.dropWhile_append]
  split
  · exact ⟨[], by simp [hkept]⟩
  · exact ⟨(rest.reverse.dropWhile selects).reverse, by simp⟩

/-- A text is what is left of it by trimming, between what is trimmed. -/
theorem exists_trimBoth (selects : Char → Bool) (text : List Char) :
    ∃ before after, text = before ++ trimBoth selects text ++ after ∧
      (∀ c ∈ before, selects c = true) ∧ ∀ c ∈ after, selects c = true := by
  refine ⟨text.takeWhile selects, (text.dropWhile selects).rtakeWhile selects, ?_,
    fun _ => List.mem_takeWhile_imp, fun _ => List.mem_rtakeWhile_imp⟩
  rw [trimBoth_eq_rdropWhile, List.append_assoc, List.rdropWhile_append_rtakeWhile,
    List.takeWhile_append_dropWhile]

theorem mem_of_mem_trimBoth (hmem : c ∈ trimBoth selects text) : c ∈ text := by
  obtain ⟨before, after, hsplit, -⟩ := exists_trimBoth selects text
  rw [hsplit]
  exact List.mem_append_left after (List.mem_append_right before hmem)

theorem trimBoth_append_left (hbefore : ∀ c ∈ before, selects c = true) (text : List Char) :
    trimBoth selects (before ++ text) = trimBoth selects text := by
  rw [trimBoth, List.dropWhile_append_of_pos hbefore, trimBoth]

theorem trimBoth_append_right (hafter : ∀ c ∈ after, selects c = true) (text : List Char) :
    trimBoth selects (text ++ after) = trimBoth selects text := by
  have hback (front : List Char) :
      (front ++ after).rdropWhile selects = front.rdropWhile selects := by
    rw [List.rdropWhile, List.reverse_append,
      List.dropWhile_append_of_pos fun c hmem => hafter c (List.mem_reverse.mp hmem),
      List.rdropWhile]
  rw [trimBoth_eq_rdropWhile, trimBoth_eq_rdropWhile, List.dropWhile_append]
  split
  case isTrue hempty =>
    rw [List.isEmpty_iff.mp hempty, List.dropWhile_eq_nil_iff.mpr hafter]
  case isFalse => exact hback _

/-- What is to be trimmed makes no difference around a text. -/
theorem trimBoth_append (hbefore : ∀ c ∈ before, selects c = true)
    (hafter : ∀ c ∈ after, selects c = true) (text : List Char) :
    trimBoth selects (before ++ text ++ after) = trimBoth selects text := by
  rw [trimBoth_append_right hafter, trimBoth_append_left hbefore]

theorem trimBoth_trimBoth (selects : Char → Bool) (text : List Char) :
    trimBoth selects (trimBoth selects text) = trimBoth selects text := by
  obtain ⟨before, after, hsplit, hbefore, hafter⟩ := exists_trimBoth selects text
  calc trimBoth selects (trimBoth selects text)
      = trimBoth selects (before ++ trimBoth selects text ++ after) :=
        (trimBoth_append hbefore hafter _).symm
    _ = trimBoth selects text := by rw [← hsplit]

/-- What is left by trimming, if anything, is not all of the kind that is trimmed. -/
theorem all_trimBoth (hne : trimBoth selects text ≠ []) :
    (trimBoth selects text).all selects = false := by
  rw [Bool.eq_false_iff]
  intro hall
  have hnothing := trimBoth_append_left (List.all_eq_true.mp hall) []
  rw [List.append_nil, trimBoth_trimBoth] at hnothing
  exact hne hnothing

/-! ### Spread texts -/

/-- A way to put characters for a character, all of which are trimmed if it is, and none else. -/
structure Spreads (selects : Char → Bool) (spread : Char → List Char) : Prop where
  nonempty (c : Char) : spread c ≠ []
  alike {c image : Char} (hmem : image ∈ spread c) : selects image = selects c

namespace Spreads

variable {spread : Char → List Char}

theorem reverse (hspread : Spreads selects spread) : Spreads selects (List.reverse ∘ spread) where
  nonempty c := by simpa using hspread.nonempty c
  alike hmem := hspread.alike (List.mem_reverse.mp hmem)

theorem dropWhile_flatMap (hspread : Spreads selects spread) (text : List Char) :
    (text.flatMap spread).dropWhile selects = (text.dropWhile selects).flatMap spread := by
  induction text with
  | nil => rfl
  | cons c rest ih =>
      rw [List.flatMap_cons]
      cases hc : selects c with
      | true =>
          have hall : ∀ image ∈ spread c, selects image = true :=
            fun _ hmem => (hspread.alike hmem).trans hc
          rw [List.dropWhile_append_of_pos hall, List.dropWhile_cons_of_pos hc, ih]
      | false =>
          obtain ⟨first, others, himages⟩ := List.exists_cons_of_ne_nil (hspread.nonempty c)
          have hfirst : selects first = false :=
            (hspread.alike (himages ▸ List.mem_cons_self)).trans hc
          rw [himages, List.cons_append, List.dropWhile_cons_of_neg (by simp [hfirst]),
            List.dropWhile_cons_of_neg (by simp [hc]), List.flatMap_cons, himages,
            List.cons_append]

/-- A text may be trimmed before it is spread or after. -/
theorem trimBoth_flatMap (hspread : Spreads selects spread) (text : List Char) :
    trimBoth selects (text.flatMap spread) = (trimBoth selects text).flatMap spread := by
  have hforth : List.reverse ∘ List.reverse ∘ spread = spread :=
    funext fun c => List.reverse_reverse (spread c)
  rw [trimBoth, hspread.dropWhile_flatMap, List.reverse_flatMap, hspread.reverse.dropWhile_flatMap,
    List.reverse_flatMap, hforth, trimBoth]

end Spreads

end AirQuality.Text
