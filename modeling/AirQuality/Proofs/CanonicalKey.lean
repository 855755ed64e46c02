import AirQuality.CanonicalKey
import AirQuality.Proofs.Text.Case

/-!
# Canonical keys

A key is made from the plain form of a name, in capitals and without the blanks around it.  The
first rule with a mark in the plain form gives the key, and without such a rule the plain form is
the key itself.  Either way the key of a key is that key: the rules lead from their keys back to
them, and a plain form is its own plain form.
-/

namespace AirQuality.CanonicalKey

open Text

variable {rule : Rule} {plain before after : List Char} {name : Option String}

/-! ### Plain forms -/

/-- The plain form of a name, which is empty for a missing one. -/
def plainFormOf (name : Option String) : List Char :=
  name.elim [] fun text => plainForm text.toList

theorem plainFormOf_some (text : String) : plainFormOf (some text) = plainForm text.toList := rfl

theorem isCapital_of_mem_plainForm {text : List Char} {c : Char} (hmem : c ∈ plainForm text) :
    IsCapital c :=
  isCapital_of_mem_upper (mem_of_mem_trimBoth hmem)

theorem upper_plainForm (text : List Char) : upper (plainForm text) = plainForm text :=
  upper_eq_self fun _ => isCapital_of_mem_plainForm

theorem strip_plainForm (text : List Char) : strip (plainForm text) = plainForm text :=
  trimBoth_trimBoth isBlank (upper text)

theorem plainForm_upper (text : List Char) : plainForm (upper text) = plainForm text := by
  rw [plainForm, upper_upper, plainForm]

theorem plainForm_between_blanks (hbefore : isAllBlank before = true)
    (hafter : isAllBlank after = true) (text : List Char) :
    plainForm (before ++ text ++ after) = plainForm text := by
  rw [plainForm, upper_append, upper_append, upper_blanks hbefore, upper_blanks hafter]
  exact trimBoth_append (List.all_eq_true.mp hbefore) (List.all_eq_true.mp hafter) (upper text)

/-! ### Rules -/

/-- A rule one of whose marks occurs in a text. -/
def Rule.Marks (rule : Rule) (text : List Char) : Prop := ∃ mark ∈ rule.marks, mark.toList <:+: text

theorem Rule.applies_iff {text : List Char} : rule.applies text = true ↔ rule.Marks text := by
  have hoccurs (mark : String) :
      occursIn mark.toList text = true ↔ mark.toList <:+: text := by
    rw [occursIn_iff]
    constructor
    · rintro ⟨before, after, hsplit⟩
      exact ⟨before, after, hsplit.symm⟩
    · rintro ⟨before, after, hsplit⟩
      exact ⟨before, after, hsplit.symm⟩
  simp only [applies, Marks, List.any_eq_true, hoccurs]

/-- The first rule with a mark in a text. -/
def Rule.IsFirstFor (rule : Rule) (text : List Char) : Prop :=
  ∃ earlier later, rules = earlier ++ rule :: later ∧ rule.Marks text ∧
    ∀ other ∈ earlier, ¬other.Marks text

/-- A key that no rule takes for another and that is its own plain form. -/
structure IsUnmarked (key : String) : Prop where
  unmarked : ∀ rule ∈ rules, ¬rule.Marks key.toList
  capital : upper key.toList = key.toList
  stripped : strip key.toList = key.toList

theorem find?_rules_eq_some_iff :
    rules.find? (·.applies plain) = some rule ↔ rule.IsFirstFor plain := by
  simp only [List.find?_eq_some_iff_append, Rule.IsFirstFor, ← Rule.applies_iff,
    Bool.not_eq_true', Bool.not_eq_true]
  constructor
  · rintro ⟨happlies, earlier, later, hsplit, hearlier⟩
    exact ⟨earlier, later, hsplit, happlies, hearlier⟩
  · rintro ⟨earlier, later, hsplit, happlies, hearlier⟩
    exact ⟨happlies, earlier, later, hsplit, hearlier⟩

theorem find?_rules_eq_none_iff :
    rules.find? (·.applies plain) = none ↔ ∀ rule ∈ rules, ¬rule.Marks plain := by
  simp only [List.find?_eq_none, Rule.applies_iff]

theorem isUnmarked_unknown : IsUnmarked unknown := by
  refine ⟨?_, by decide +kernel, by decide +kernel⟩
  rw [← find?_rules_eq_none_iff]
  decide +kernel

/-! ### Keys -/

theorem ofName_eq (name : Option String) : ofName name = ofPlainForm (plainFormOf name) := by
  cases name with
  | none => rfl
  | some text => rfl

/-- An empty name has no mark. -/
theorem Rule.IsFirstFor.ne_nil (hfirst : rule.IsFirstFor plain) : plain ≠ [] := by
  rintro rfl
  have hnone : rules.find? (·.applies []) = none := by decide +kernel
  rw [find?_rules_eq_some_iff.mpr hfirst] at hnone
  cases hnone

theorem ofPlainForm_of_isFirstFor (hfirst : rule.IsFirstFor plain) :
    ofPlainForm plain = rule.key := by
  rw [ofPlainForm, find?_rules_eq_some_iff.mpr hfirst, if_neg]
  exact fun hempty => hfirst.ne_nil (List.isEmpty_iff.mp hempty)

theorem ofPlainForm_of_unmarked (hnone : ∀ rule ∈ rules, ¬rule.Marks plain) :
    ofPlainForm plain = if plain = [] then unknown else String.ofList plain := by
  simp only [ofPlainForm, find?_rules_eq_none_iff.mpr hnone, List.isEmpty_iff]

theorem isUnmarked_ofName (hnone : ∀ rule ∈ rules, ¬rule.Marks (plainFormOf name)) :
    IsUnmarked (ofName name) := by
  rw [ofName_eq, ofPlainForm_of_unmarked hnone]
  split
  case isTrue => exact isUnmarked_unknown
  case isFalse hne =>
    cases name with
    | none => exact absurd rfl hne
    | some text =>
        constructor
        case unmarked => simpa using hnone
        case capital => rw [String.toList_ofList, plainFormOf_some, upper_plainForm]
        case stripped => rw [String.toList_ofList, plainFormOf_some, strip_plainForm]

theorem ofName_key (hmem : rule ∈ rules) : ofName (some rule.key) = rule.key := by
  have hkeys : ∀ rule ∈ rules, ofName (some rule.key) = rule.key := by decide +kernel
  exact hkeys rule hmem

theorem isAllBlank_key (hmem : rule ∈ rules) : isAllBlank rule.key.toList = false := by
  have hkeys : ∀ rule ∈ rules, isAllBlank rule.key.toList = false := by decide +kernel
  exact hkeys rule hmem

theorem Rule.IsFirstFor.mem (hfirst : rule.IsFirstFor plain) : rule ∈ rules := by
  obtain ⟨earlier, later, hsplit, -⟩ := hfirst
  rw [hsplit]
  exact List.mem_append_right earlier List.mem_cons_self

section

variable {key : String} (hkey : IsUnmarked key) (hne : key ≠ "")

include hkey hne

/-- An unmarked key is its own key, unless it is empty. -/
theorem IsUnmarked.ofName_eq : ofName (some key) = key := by
  have hplain : plainForm key.toList = key.toList := by
    rw [plainForm, hkey.capital, hkey.stripped]
  rw [CanonicalKey.ofName_eq, plainFormOf_some, hplain, ofPlainForm_of_unmarked hkey.unmarked,
    if_neg (by simpa using hne), String.ofList_toList]

theorem IsUnmarked.isAllBlank : isAllBlank key.toList = false := by
  have hstripped : strip key.toList ≠ [] := by
    rw [hkey.stripped]
    simpa using hne
  rw [← hkey.stripped]
  exact all_trimBoth hstripped

end

/-- What the key of a name is. -/
structure IsKeyOf (key : String) (name : Option String) : Prop where
  fixed : ofName (some key) = key
  notBlank : isAllBlank key.toList = false
  /-- The first rule with a mark in the plain form of the name gives the key. -/
  marked : ∀ rule : Rule, rule.IsFirstFor (plainFormOf name) → key = rule.key
  /-- Without such a rule the key is the plain form itself, if there is one. -/
  unmarked : (∀ rule ∈ rules, ¬rule.Marks (plainFormOf name)) → IsUnmarked key ∧
    key = if plainFormOf name = [] then unknown else String.ofList (plainFormOf name)

theorem isKeyOf_ofName (name : Option String) : IsKeyOf (ofName name) name := by
  cases hfind : rules.find? (·.applies (plainFormOf name)) with
  | some rule =>
      have hfirst := find?_rules_eq_some_iff.mp hfind
      have hkey : ofName name = rule.key := by
        rw [ofName_eq, ofPlainForm_of_isFirstFor hfirst]
      constructor
      case fixed => rw [hkey, ofName_key hfirst.mem]
      case notBlank => rw [hkey, isAllBlank_key hfirst.mem]
      case marked =>
        intro other hother
        rw [ofName_eq, ofPlainForm_of_isFirstFor hother]
      case unmarked =>
        intro hnone
        rw [find?_rules_eq_none_iff.mpr hnone] at hfind
        cases hfind
  | none =>
      have hnone := find?_rules_eq_none_iff.mp hfind
      have hunmarked : IsUnmarked (ofName name) := isUnmarked_ofName hnone
      have hkey : ofName name = if plainFormOf name = [] then unknown
          else String.ofList (plainFormOf name) := by
        rw [ofName_eq, ofPlainForm_of_unmarked hnone]
      have hne : ofName name ≠ "" := by
        rw [hkey]
        split
        case isTrue => decide
        case isFalse hplain => simpa using hplain
      constructor
      case fixed => exact hunmarked.ofName_eq hne
      case notBlank => exact hunmarked.isAllBlank hne
      case marked =>
        intro rule hfirst
        rw [find?_rules_eq_some_iff.mpr hfirst] at hfind
        cases hfind
      case unmarked => exact fun _ => ⟨hunmarked, hkey⟩

/-- A key is its own key and never blank.  It is that of the first rule with a mark in the plain
form of the name, or else an unmarked one.  Neither blanks around a name nor capitals for its
letters make a difference. -/
theorem ofName_isKeyOf :
    (∀ name, IsKeyOf (ofName name) name) ∧
      (∀ (text : String) (before after : List Char), isAllBlank before = true →
        isAllBlank after = true →
          ofName (some (String.ofList (before ++ text.toList ++ after))) = ofName (some text)) ∧
      ∀ text : String, ofName (some (String.ofList (upper text.toList))) = ofName (some text) := by
  refine ⟨isKeyOf_ofName, fun text before after hbefore hafter => ?_, fun text => ?_⟩
  · rw [ofName_eq, ofName_eq, plainFormOf_some, plainFormOf_some, String.toList_ofList,
      plainForm_between_blanks hbefore hafter]
  · rw [ofName_eq, ofName_eq, plainFormOf_some, plainFormOf_some, String.toList_ofList,
      plainForm_upper]

/-- The first letter of this name has two capitals, of which the second starts a mark. -/
def nitrogen : String := "ŉo2"

theorem ofName_isKeyOf_nitrogen :
    ofName (some nitrogen) = "NO2" ∧
      ofName (some (String.ofList (['\u3000', ' '] ++ nitrogen.toList ++ ['\u2028']))) = "NO2" ∧
      IsUnmarked (ofName (some "toluen")) := by
  obtain ⟨hkey, hblanks, -⟩ := ofName_isKeyOf
  have hfirst : Rule.IsFirstFor ⟨"NO2", ["NO2"]⟩ (plainFormOf (some nitrogen)) :=
    find?_rules_eq_some_iff.mp (by decide +kernel)
  have hnone : ∀ rule ∈ rules, ¬rule.Marks (plainFormOf (some "toluen")) :=
    find?_rules_eq_none_iff.mp (by decide +kernel)
  have hnitrogen := (hkey (some nitrogen)).marked _ hfirst
  refine ⟨hnitrogen, ?_, ((hkey (some "toluen")).unmarked hnone).1⟩
  rw [hblanks nitrogen _ _ (by decide) (by decide), hnitrogen]

end AirQuality.CanonicalKey
