import AirQuality.Proofs.Region.Globe
import AirQuality.Proofs.Region.Names

/-!
# Regions by position

A position on the globe belongs to the first region of a table whose box holds it, and a position
off the globe is refused.  The order of the table matters only to a position that is held by more
than one region.
-/

namespace AirQuality

open Outcome

/-! ### Positions in numbers -/

/-- A position in binary64 numbers, which may be infinite or NaN. -/
def Coordinate.ofFloats (latitude longitude : Float) : Coordinate :=
  ⟨.float latitude, .float longitude⟩

namespace Coordinate

theorem isNaN_float_of_not_isOrdered {number : Float}
    (hunordered : ¬(Json.float number).IsOrdered) : isNaN (.float number) = .ok true := by
  rcases isNaN_of_not_isOrdered hunordered with hnan | herror
  · exact hnan
  · cases herror

theorem not_isTooLarge_float (number : Float) : ¬(Json.float number).IsTooLarge := by
  rintro ⟨same, hsame, hlarge⟩
  cases hsame
  cases hlarge

/-- Two binary64 numbers off the globe are refused, in whatever way they are off it. -/
theorem check_ofFloats_of_not_isOnGlobe {latitude longitude : Float}
    (hoff : ¬(ofFloats latitude longitude).IsOnGlobe) :
    (ofFloats latitude longitude).check = .error (ofFloats latitude longitude).invalid := by
  have hpresent : ¬((Json.float latitude).kind = .null ∨ (Json.float longitude).kind = .null) := by
    rintro (hnull | hnull) <;> cases hnull
  by_cases hlatitude : (Json.float latitude).IsOrdered
  case neg => simp [check, ofFloats, hpresent, isNaN_float_of_not_isOrdered hlatitude]
  have hnorth := isNaN_of_isOrdered hlatitude (not_isTooLarge_float latitude)
  by_cases hlongitude : (Json.float longitude).IsOrdered
  case neg => simp [check, ofFloats, hpresent, hnorth, isNaN_float_of_not_isOrdered hlongitude]
  exact (check_of_isOrdered hlatitude hlongitude (not_isTooLarge_float latitude)
    (not_isTooLarge_float longitude)).2 hoff

end Coordinate

namespace Region

variable {position : Coordinate} {region : Region} {table other : List Region}

/-! ### The first box -/

/-- A region of a table whose box holds a position, which none before it does. -/
def IsFirstAt (region : Region) (position : Coordinate) (table : List Region) : Prop :=
  ∃ earlier later, table = earlier ++ region :: later ∧ region.holds position = .ok true ∧
    ∀ other ∈ earlier, other.holds position = .ok false

/-- A region of a table whose box holds a position, which no other entry of the table does. -/
def IsOnlyAt (region : Region) (position : Coordinate) (table : List Region) : Prop :=
  ∃ earlier later, table = earlier ++ region :: later ∧ region.holds position = .ok true ∧
    ∀ other ∈ earlier ++ later, other.holds position = .ok false

/-- A table of which all entries that hold a position are one region. -/
def IsUnambiguousAt (position : Coordinate) (table : List Region) : Prop :=
  ∀ region ∈ table, region.holds position = .ok true →
    ∀ other ∈ table, other.holds position = .ok true → other = region

theorem IsOnlyAt.mem (honly : region.IsOnlyAt position table) :
    region ∈ table ∧ region.holds position = .ok true := by
  obtain ⟨earlier, later, rfl, hholds, -⟩ := honly
  exact ⟨List.mem_append_right earlier List.mem_cons_self, hholds⟩

theorem IsOnlyAt.isFirstAt (honly : region.IsOnlyAt position table) :
    region.IsFirstAt position table := by
  obtain ⟨earlier, later, hsplit, hholds, hothers⟩ := honly
  exact ⟨earlier, later, hsplit, hholds, fun other hmem =>
    hothers other (List.mem_append_left later hmem)⟩

theorem IsOnlyAt.isUnambiguousAt (honly : region.IsOnlyAt position table) :
    IsUnambiguousAt position table := by
  obtain ⟨earlier, later, rfl, -, hothers⟩ := honly
  have hsame : ∀ other ∈ earlier ++ region :: later, other.holds position = .ok true →
      other = region := by
    intro other hmem hholds
    by_contra hne
    have hother : other ∈ earlier ++ later := by simpa [hne] using hmem
    rw [hothers other hother] at hholds
    cases hholds
  intro first hfirst hfirstHolds second hsecond hsecondHolds
  rw [hsame first hfirst hfirstHolds, hsame second hsecond hsecondHolds]

theorem firstContaining_eq_find? {inside : Region → Bool}
    (hcontains : ∀ region : Region, region.contains position = .ok (inside region))
    (table : List Region) :
    firstContaining position table = .ok (table.find? inside) := by
  induction table with
  | nil => rfl
  | cons region rest ih =>
      rw [firstContaining, hcontains, ok_bind, List.find?_cons]
      cases inside region with
      | true => rfl
      | false => exact ih

/-- On the globe the boxes that hold a position are known, and the first of them counts. -/
theorem exists_classify_eq_find? (hglobe : position.IsOnGlobe) :
    ∃ inside : Region → Bool, (∀ region : Region, region.holds position = .ok (inside region)) ∧
      ∀ table, classify position table = .ok (table.find? inside) := by
  choose inside hcontains using hglobe.exists_contains
  refine ⟨inside, fun region => ?_, fun table => ?_⟩
  · rw [holds, hglobe.check_eq_ok, ok_bind, hcontains]
  · rw [classify, hglobe.check_eq_ok, ok_bind, firstContaining_eq_find? hcontains]

/-! ### The order of a table -/

theorem find?_of_perm {inside : Region → Bool} (hperm : table.Perm other)
    (hsame : ∀ region ∈ table, inside region = true → ∀ other ∈ table, inside other = true →
      other = region) : other.find? inside = table.find? inside := by
  cases hfound : table.find? inside with
  | none =>
      rw [List.find?_eq_none] at hfound ⊢
      exact fun region hmem => hfound region (hperm.mem_iff.mpr hmem)
  | some region =>
      have hregion := List.mem_of_find?_eq_some hfound
      have hinside := List.find?_some hfound
      cases hother : other.find? inside with
      | none =>
          have hmem := hperm.mem_iff.mp hregion
          exact absurd hinside (List.find?_eq_none.mp hother region hmem)
      | some second =>
          have hsecond := hperm.mem_iff.mpr (List.mem_of_find?_eq_some hother)
          rw [hsame region hregion hinside second hsecond (List.find?_some hother)]

/-- Any region that holds a position is the first to hold it in some order of the table. -/
theorem find?_cons_erase {inside : Region → Bool} (hmem : region ∈ table)
    (hinside : inside region = true) :
    table.Perm (region :: table.erase region) ∧
      (region :: table.erase region).find? inside = some region :=
  ⟨List.perm_cons_erase hmem, List.find?_cons_of_pos hinside⟩

/-- A position is classified alike in every order of a table exactly if it is unambiguous there. -/
theorem classify_perm_iff (hglobe : position.IsOnGlobe) :
    (∀ other, table.Perm other → classify position other = classify position table) ↔
      IsUnambiguousAt position table := by
  obtain ⟨inside, hholds, hclassify⟩ := exists_classify_eq_find? hglobe
  simp only [IsUnambiguousAt, hholds, hclassify, Except.ok.injEq]
  constructor
  · intro hperm region hregion hinside other hother hotherInside
    obtain ⟨hfront, hfound⟩ := find?_cons_erase hregion hinside
    obtain ⟨hotherFront, hotherFound⟩ := find?_cons_erase hother hotherInside
    rw [hperm _ hfront] at hfound
    rw [hperm _ hotherFront, hfound] at hotherFound
    exact (Option.some.inj hotherFound).symm
  · exact fun hsame other hperm => find?_of_perm hperm hsame

/-! ### Classification -/

/-- What a position is classified into in a table. -/
structure IsClassifiedIn (position : Coordinate) (table : List Region) : Prop where
  decided : ∃ valid, position.isValid = .ok valid
  /-- A position that is not on the globe is refused, and no other is. -/
  refused : classify position table = .error position.invalid ↔ position.isValid = .ok false
  accepted : (∃ found, classify position table = .ok found) ↔ position.isValid = .ok true
  first : ∀ region, classify position table = .ok (some region) ↔ region.IsFirstAt position table
  outside : classify position table = .ok none ↔
    position.isValid = .ok true ∧ ∀ region ∈ table, region.holds position = .ok false

theorem isClassifiedIn_of_isOnGlobe (hglobe : position.IsOnGlobe) (table : List Region) :
    IsClassifiedIn position table := by
  obtain ⟨inside, hholds, hclassify⟩ := exists_classify_eq_find? hglobe
  have hvalid := Coordinate.isValid_of_isOnGlobe hglobe
  constructor
  case decided => exact ⟨true, hvalid⟩
  case refused => simp [hclassify, hvalid]
  case accepted => simp [hclassify, hvalid]
  case first =>
    intro region
    simp only [hclassify, hholds, IsFirstAt, Except.ok.injEq, List.find?_eq_some_iff_append,
      Bool.not_eq_true']
    constructor
    · rintro ⟨hinside, earlier, later, hsplit, hearlier⟩
      exact ⟨earlier, later, hsplit, hinside, hearlier⟩
    · rintro ⟨earlier, later, hsplit, hinside, hearlier⟩
      exact ⟨hinside, earlier, later, hsplit, hearlier⟩
  case outside => simp [hclassify, hholds, hvalid]

section

variable (hcheck : position.check = .error position.invalid)

include hcheck

theorem holds_of_refused (region : Region) : region.holds position = .error position.invalid := by
  rw [holds, hcheck, error_bind]

theorem classify_of_refused (table : List Region) :
    classify position table = .error position.invalid := by
  rw [classify, hcheck, error_bind]

theorem isClassifiedIn_of_refused (table : List Region) : IsClassifiedIn position table := by
  have hvalid := Coordinate.isValid_of_check (.inl hcheck)
  constructor
  case decided => exact ⟨false, hvalid⟩
  case refused => simp [classify_of_refused hcheck, hvalid]
  case accepted => simp [classify_of_refused hcheck, hvalid]
  case first =>
    intro region
    simp [classify_of_refused hcheck, holds_of_refused hcheck, IsFirstAt]
  case outside => simp [classify_of_refused hcheck, hvalid]

/-- No region holds what is refused, and so no order of a table makes a difference to it. -/
theorem classify_perm_iff_of_refused :
    (∀ other, table.Perm other → classify position other = classify position table) ↔
      IsUnambiguousAt position table := by
  simp [IsUnambiguousAt, classify_of_refused hcheck, holds_of_refused hcheck]

end

/-- Two numbers are classified into the first region whose box holds them, whatever the table, and
refused exactly if they are not on the globe.  They are classified alike in every order of the table
exactly if all entries that hold them are one region, and so whenever only one entry does. -/
theorem classify_isFirst (latitude longitude : Float) (table : List Region) :
    let position := Coordinate.ofFloats latitude longitude
    IsClassifiedIn position table ∧
      (∀ region, region.IsOnlyAt position table →
        ∀ other, table.Perm other → classify position other = .ok (some region)) ∧
      ((∀ other, table.Perm other → classify position other = classify position table) ↔
        IsUnambiguousAt position table) := by
  intro position
  by_cases hglobe : position.IsOnGlobe
  · have hclassified := isClassifiedIn_of_isOnGlobe hglobe table
    refine ⟨hclassified, fun region honly other hperm => ?_, classify_perm_iff hglobe⟩
    rw [(classify_perm_iff hglobe).mpr honly.isUnambiguousAt other hperm]
    exact (hclassified.first region).mpr honly.isFirstAt
  · have hcheck : position.check = .error position.invalid :=
      Coordinate.check_ofFloats_of_not_isOnGlobe hglobe
    refine ⟨isClassifiedIn_of_refused hcheck table, fun region honly => ?_,
      classify_perm_iff_of_refused hcheck⟩
    have hholds := honly.mem.2
    rw [holds_of_refused hcheck] at hholds
    cases hholds

def mazowieckie : Region := ⟨"mazowieckie", tenths 514, tenths 534, tenths 191, tenths 229⟩

/-- Warsaw is in one voivodeship, whichever of them comes first in the table. -/
theorem classify_isFirst_warsaw :
    classify warsaw voivodeships = .ok (some mazowieckie) ∧
      classify warsaw voivodeships.reverse = .ok (some mazowieckie) := by
  have hothers : ∀ other ∈ voivodeships.take 6 ++ voivodeships.drop 7,
      (other.holds warsaw).toOption = some false := by decide +kernel
  have honly : mazowieckie.IsOnlyAt warsaw voivodeships :=
    ⟨voivodeships.take 6, voivodeships.drop 7, rfl, eq_ok_of_toOption (by decide +kernel),
      fun other hmem => eq_ok_of_toOption (hothers other hmem)⟩
  have hclassified := (classify_isFirst 52.2 21.0 voivodeships).2.1 mazowieckie honly
  exact ⟨hclassified voivodeships (List.Perm.refl _),
    hclassified voivodeships.reverse (List.reverse_perm _).symm⟩

end Region

end AirQuality
