/-!
# Finding and replacing

Plain substring search and the replacement of single characters.
-/

namespace AirQuality.Text

/-- Whether `part` occurs somewhere in a text. -/
def occursIn (part : List Char) : List Char → Bool
  | [] => part.isEmpty
  | c :: rest => part.isPrefixOf (c :: rest) || occursIn part rest

theorem occursIn_iff {part text : List Char} :
    occursIn part text = true ↔ ∃ before after, text = before ++ part ++ after := by
  induction text with
  | nil =>
    simp only [occursIn, List.isEmpty_iff]
    constructor
    · rintro rfl
      exact ⟨[], [], rfl⟩
    · rintro ⟨before, after, split⟩
      simp_all
  | cons c rest ih =>
    simp only [occursIn, Bool.or_eq_true, List.isPrefixOf_iff_prefix, ih]
    constructor
    · rintro (⟨after, split⟩ | ⟨before, after, split⟩)
      · exact ⟨[], after, by simpa using split.symm⟩
      · exact ⟨c :: before, after, by simp [split]⟩
    · rintro ⟨before, after, split⟩
      match before with
      | [] => exact .inl ⟨after, by simpa using split.symm⟩
      | first :: more => exact .inr ⟨more, after, by simp_all⟩

def replaceChar (old new : Char) (text : List Char) : List Char :=
  text.map fun c => if c = old then new else c

end AirQuality.Text
