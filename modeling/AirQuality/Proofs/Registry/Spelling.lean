import AirQuality.Proofs.Text.Case
import AirQuality.Registry

/-!
# Spellings of a name

A name is kept in capitals, without the blanks around it and with underscores for its hyphens.  Any
of the three changes may have been made to a name before without a difference to how it is kept.  So
what is kept of a name is itself one of its spellings.
-/

namespace AirQuality

namespace Text

variable {old new : Char}

/-! ### Replacing a character -/

theorem replaceChar_append (old new : Char) (first second : List Char) :
    replaceChar old new (first ++ second) =
      replaceChar old new first ++ replaceChar old new second :=
  List.map_append

theorem trimBoth_replaceChar {selects : Char → Bool} (hsame : selects new = selects old)
    (text : List Char) :
    trimBoth selects (replaceChar old new text) = replaceChar old new (trimBoth selects text) := by
  have hspread : Spreads selects fun c => [if c = old then new else c] := by
    constructor
    case nonempty => exact fun c => List.cons_ne_nil _ []
    case alike =>
      intro c image hmem
      rw [List.mem_singleton.mp hmem]
      by_cases hold : c = old
      · rw [if_pos hold, hsame, hold]
      · rw [if_neg hold]
  rw [replaceChar, replaceChar, List.map_eq_flatMap, List.map_eq_flatMap,
    hspread.trimBoth_flatMap]

/-- Among capitals a character may be replaced before the others are put in capitals or after. -/
theorem replaceChar_upper_replaceChar (hold : IsCapital old) (hnew : IsCapital new)
    (text : List Char) :
    replaceChar old new (upper (replaceChar old new text)) = replaceChar old new (upper text) := by
  have hletter (c : Char) : replaceChar old new (upper [if c = old then new else c]) =
      replaceChar old new (upper [c]) := by
    by_cases hc : c = old
    · have hself {other : Char} (hcapital : IsCapital other) : upper [other] = [other] :=
        upper_eq_self fun _ hmem => List.mem_singleton.mp hmem ▸ hcapital
      rw [if_pos hc, hc, hself hnew, hself hold]
      by_cases hsame : new = old <;> simp [replaceChar, hsame]
    · rw [if_neg hc]
  induction text with
  | nil => rfl
  | cons c rest ih =>
      have hfirst : replaceChar old new (c :: rest) =
          [if c = old then new else c] ++ replaceChar old new rest := rfl
      rw [hfirst, upper_append, replaceChar_append, hletter, ih, ← replaceChar_append,
        ← upper_append, List.singleton_append]

end Text

namespace Registry

open Text

/-- What is kept of a name, in characters. -/
def fold (name : List Char) : List Char := replaceChar '-' '_' (upper (strip name))

theorem key_eq (name : String) : key name = String.ofList (fold name.toList) := rfl

theorem isCapital_hyphen : IsCapital '-' := isCapital_of_code (by decide +kernel)

theorem isCapital_underscore : IsCapital '_' := isCapital_of_code (by decide +kernel)

theorem strip_underscored (text : List Char) :
    strip (replaceChar '-' '_' text) = replaceChar '-' '_' (strip text) :=
  trimBoth_replaceChar (by decide) text

theorem fold_underscored (text : List Char) : fold (replaceChar '-' '_' text) = fold text := by
  rw [fold, strip_underscored,
    replaceChar_upper_replaceChar isCapital_hyphen isCapital_underscore, fold]

theorem fold_upper (text : List Char) : fold (upper text) = fold text := by
  rw [fold, strip_upper, upper_upper, fold]

theorem fold_strip (text : List Char) : fold (strip text) = fold text := by
  rw [fold, strip, strip, trimBoth_trimBoth, fold, strip]

theorem fold_between_blanks {before after : List Char} (hbefore : isAllBlank before = true)
    (hafter : isAllBlank after = true) (text : List Char) :
    fold (before ++ text ++ after) = fold text := by
  rw [fold, strip, trimBoth_append (List.all_eq_true.mp hbefore) (List.all_eq_true.mp hafter),
    fold, strip]

theorem fold_fold (text : List Char) : fold (fold text) = fold text :=
  calc fold (fold text) = fold (upper (strip text)) := fold_underscored _
    _ = fold (strip text) := fold_upper _
    _ = fold text := fold_strip text

/-- Spellings of a name: with blanks around it, with the same capitals, with hyphens for underscores
or underscores for hyphens, and as it is kept. -/
inductive IsSpelling (name : String) : String → Prop
  | between (before after : List Char) (hbefore : isAllBlank before = true)
      (hafter : isAllBlank after = true) :
      IsSpelling name (String.ofList (before ++ name.toList ++ after))
  | cased (spelling : String) (hsame : upper spelling.toList = upper name.toList) :
      IsSpelling name spelling
  | hyphenated (spelling : String)
      (hsame : replaceChar '-' '_' spelling.toList = replaceChar '-' '_' name.toList) :
      IsSpelling name spelling
  | kept : IsSpelling name (key name)

/-- All spellings of a name are kept alike. -/
theorem IsSpelling.key_eq {name spelling : String} (hspelling : IsSpelling name spelling) :
    key spelling = key name := by
  rw [Registry.key_eq, Registry.key_eq]
  apply congrArg String.ofList
  cases hspelling with
  | between before after hbefore hafter =>
      rw [String.toList_ofList, fold_between_blanks hbefore hafter]
  | cased spelling hsame => rw [← fold_upper, hsame, fold_upper]
  | hyphenated spelling hsame => rw [← fold_underscored, hsame, fold_underscored]
  | kept => rw [Registry.key_eq, String.toList_ofList, fold_fold]

theorem key_key (name : String) : key (key name) = key name := IsSpelling.kept.key_eq

end Registry

end AirQuality
