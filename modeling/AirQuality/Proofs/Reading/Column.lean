import AirQuality.Proofs.Decimal.Binary64
import AirQuality.Proofs.Outcome
import AirQuality.Reading.Column

/-!
# Columns and their parts

The cells of a column are read together, so a cell may count differently once other cells are
gone.  It does so in two ways only: the sign of a zero is lost where all cells left are whole
numbers, and an instant far away is no longer missing where no cell left is fine.
-/

namespace AirQuality.Column

open Decimal (oneZero)
open Outcome

/-! ### Whole numbers -/

/-- A cell that stands for a whole number that 64 bits hold with a sign. -/
def IsSigned (cell : Json) : Prop :=
  ∃ value, wholeOf? cell = some value ∧ -int64Bound ≤ value ∧ value < int64Bound

/-- A cell that stands for a whole number that 64 bits hold without a sign. -/
def IsUnsigned (cell : Json) : Prop :=
  ∃ value, wholeOf? cell = some value ∧ 0 ≤ value ∧ value < 2 * int64Bound

theorem isSome_foldlM_addWhole?_iff (cells : List Json) (survey : Survey)
    (hsurvey : ¬ (survey.unsigned = true ∧ survey.negative = true)) :
    (cells.foldlM (fun survey cell => (wholeOf? cell).bind survey.addWhole?) survey).isSome =
        true ↔
      (survey.unsigned = false ∧ ∀ cell ∈ cells, IsSigned cell) ∨
        (survey.negative = false ∧ ∀ cell ∈ cells, IsUnsigned cell) := by
  induction cells generalizing survey with
  | nil => cases hunsigned : survey.unsigned <;> simp_all
  | cons cell rest ih =>
      rw [List.foldlM_cons]
      cases hwhole : wholeOf? cell with
      | none => simp [hwhole, IsSigned, IsUnsigned]
      | some value =>
          have hsigned : IsSigned cell ↔ -int64Bound ≤ value ∧ value < int64Bound := by
            simp [IsSigned, hwhole]
          have hunsigned : IsUnsigned cell ↔ 0 ≤ value ∧ value < 2 * int64Bound := by
            simp [IsUnsigned, hwhole]
          have hpositive : 0 < int64Bound := by decide
          simp only [List.forall_mem_cons, hsigned, hunsigned, Option.bind_some,
            Survey.addWhole?]
          split
          case isTrue hrefused =>
            simp only [Bool.or_eq_true, Bool.and_eq_true, decide_eq_true_eq] at hrefused
            simp only [Option.bind_eq_bind, Option.bind_none, Option.isSome_none,
              Bool.false_eq_true, false_iff]
            rintro (⟨hsign, ⟨hleast, hgreatest⟩, -⟩ | ⟨hsign, ⟨hleast, hgreatest⟩, -⟩)
            · simp only [hsign, Bool.false_eq_true, false_or] at hrefused
              omega
            · simp only [hsign, Bool.false_eq_true, false_or] at hrefused
              omega
          case isFalse haccepted =>
            simp only [Bool.or_eq_true, Bool.and_eq_true, decide_eq_true_eq] at haccepted
            rw [Option.bind_eq_bind, Option.bind_some, ih]
            · simp only [Bool.or_eq_false_iff, decide_eq_false_iff_not]
              constructor
              · rintro (⟨⟨hsign, hbelow⟩, hrest⟩ | ⟨⟨hsign, hbelow⟩, hrest⟩)
                · exact .inl ⟨hsign, ⟨by omega, by omega⟩, hrest⟩
                · exact .inr ⟨hsign, ⟨by omega, by omega⟩, hrest⟩
              · rintro (⟨hsign, ⟨hleast, hgreatest⟩, hrest⟩ | ⟨hsign, ⟨hleast, hgreatest⟩, hrest⟩)
                · exact .inl ⟨⟨hsign, Int.not_le.mpr hgreatest⟩, hrest⟩
                · exact .inr ⟨⟨hsign, Int.not_lt.mpr hleast⟩, hrest⟩
            · simp only [Bool.or_eq_true, decide_eq_true_eq]
              intro hboth
              exact haccepted (.inl (.inl hboth))

/-- Cells stand for whole numbers together if 64 bits hold all of them in one of two ways. -/
theorem areWhole_iff (cells : List Json) :
    areWhole cells = true ↔
      (∀ cell ∈ cells, IsSigned cell) ∨ (∀ cell ∈ cells, IsUnsigned cell) := by
  have hfresh := isSome_foldlM_addWhole?_iff cells {} (by decide)
  simpa [areWhole] using hfresh

theorem areWhole_of_subset {cells all : List Json} (hsubset : ∀ cell ∈ cells, cell ∈ all)
    (hall : areWhole all = true) : areWhole cells = true := by
  rw [areWhole_iff] at hall ⊢
  cases hall with
  | inl hsigned => exact .inl fun cell hcell => hsigned cell (hsubset cell hcell)
  | inr hunsigned => exact .inr fun cell hcell => hunsigned cell (hsubset cell hcell)

theorem areWhole_eq_false {cells : List Json} {cell : Json} (hcell : cell ∈ cells)
    (hother : wholeOf? cell = none) : areWhole cells = false := by
  rw [← Bool.not_eq_true, areWhole_iff]
  rintro (hsigned | hunsigned)
  · obtain ⟨value, hvalue, -⟩ := hsigned cell hcell
    rw [hother] at hvalue
    cases hvalue
  · obtain ⟨value, hvalue, -⟩ := hunsigned cell hcell
    rw [hother] at hvalue
    cases hvalue

/-! ### Columns of numbers -/

/-- A cell that may stand in a column of numbers. -/
def IsNumeric : Json → Prop
  | .null => True
  | .float _ => True
  | .int value => -int64Bound ≤ value ∧ value < 2 * int64Bound
  | _ => False

theorem surveyFrom_eq_number {all : List Json} {survey : Survey} {cells : List Json}
    (hkind : surveyFrom all survey cells = .number) :
    survey.flags = false ∧ (∀ cell ∈ cells, IsNumeric cell) ∧
      (survey.fractions = true ∨ survey.notNumbers = true ∨ survey.nulls = true ∨
        ∃ cell ∈ cells, wholeOf? cell = none) := by
  induction cells generalizing survey with
  | nil =>
      unfold surveyFrom Survey.kind at hkind
      by_cases hflags : survey.flags
      · rw [if_pos hflags] at hkind
        split at hkind <;> cases hkind
      · rw [if_neg hflags] at hkind
        by_cases hnone : !survey.hasNumbers
        · rw [if_pos hnone] at hkind
          cases hkind
        · rw [if_neg hnone] at hkind
          by_cases hsome : survey.fractions || survey.notNumbers || survey.nulls
          · simp only [Bool.or_eq_true] at hsome
            refine ⟨Bool.eq_false_iff.mpr hflags, (fun _ hmem => nomatch hmem), ?_⟩
            rcases hsome with (hfractions | hnotNumbers) | hnulls
            · exact .inl hfractions
            · exact .inr (.inl hnotNumbers)
            · exact .inr (.inr (.inl hnulls))
          · rw [if_neg hsome] at hkind
            cases hkind
  | cons cell rest ih =>
      cases cell with
      | null =>
          obtain ⟨hflags, hrest, hsome⟩ := ih hkind
          exact ⟨hflags, by simpa [IsNumeric] using hrest, by simp [wholeOf?]⟩
      | bool value =>
          obtain ⟨hflags, -, -⟩ := ih hkind
          cases hflags
      | float value =>
          simp only [surveyFrom] at hkind
          obtain ⟨hflags, hrest, hsome⟩ := ih hkind
          refine ⟨?_, by simpa [IsNumeric] using hrest, by simp [wholeOf?]⟩
          split at hflags <;> exact hflags
      | int value =>
          simp only [surveyFrom] at hkind
          cases hadd : survey.addWhole? value with
          | none =>
              rw [hadd] at hkind
              cases hkind
          | some next =>
              rw [hadd] at hkind
              obtain ⟨hflags, hrest, hsome⟩ := ih hkind
              simp only [Survey.addWhole?] at hadd
              split at hadd
              case isTrue => cases hadd
              case isFalse haccepted =>
                cases hadd
                simp only [Bool.or_eq_true, decide_eq_true_eq] at haccepted
                have hcell : IsNumeric (.int value) := by
                  simp only [IsNumeric]
                  omega
                refine ⟨hflags, List.forall_mem_cons.mpr ⟨hcell, hrest⟩, ?_⟩
                simpa [wholeOf?] using hsome
      | text value =>
          simp only [surveyFrom, kindWithOthers] at hkind
          split at hkind <;> cases hkind
      | list items =>
          simp only [surveyFrom, kindWithOthers] at hkind
          split at hkind <;> cases hkind
      | object fields =>
          simp only [surveyFrom, kindWithOthers] at hkind
          split at hkind <;> cases hkind

theorem numberOf_realOf {cell : Json} (hnumeric : IsNumeric cell) :
    numberOf cell = .ok (realOf cell) := by
  cases cell with
  | null => rfl
  | float value => rfl
  | int value =>
      obtain ⟨hleast, hgreatest⟩ := hnumeric
      have hsize : value.natAbs ≤ 2 * Decimal.signWeight := by
        simp only [int64Bound] at hleast hgreatest
        simp only [Decimal.signWeight]
        omega
      simp only [numberOf, Decimal.ofInt?_of_natAbs_le hsize, realOf]
  | _ => exact hnumeric.elim

/-- The form that its kind gives a column does not change its numbers. -/
theorem numbers_ofCells (cells : List Json) : numbers (ofCells cells).2 = numbers cells := by
  by_cases hkind : kindOf cells = .number
  · obtain ⟨-, hnumeric, hother⟩ := surveyFrom_eq_number hkind
    obtain ⟨other, hmem, hother⟩ : ∃ cell ∈ cells, wholeOf? cell = none := by simpa using hother
    have hsettled : areWhole (cells.map fun cell => .float (realOf cell)) = false :=
      areWhole_eq_false (List.mem_map_of_mem hmem) rfl
    have hcells : cells.mapM numberOf = .ok (cells.map realOf) :=
      mapM_eq_ok_map fun cell hcell => numberOf_realOf (hnumeric cell hcell)
    have hfloats : (cells.map fun cell => Json.float (realOf cell)).mapM numberOf =
        .ok (cells.map realOf) := by
      rw [List.mapM_map]
      exact mapM_ok realOf cells
    simp only [ofCells, hkind, settle, numbers, hcells, hfloats, hsettled,
      areWhole_eq_false hmem hother]
  · have hsettle : (ofCells cells).2 = cells := by
      simp only [ofCells, settle]
    rw [hsettle]

/-- The numbers of the later cells of a column are the later numbers of the column, but for the
sign of a zero where all cells left are whole numbers. -/
theorem numbers_drop {cells : List Json} {values : List Float}
    (hvalues : numbers cells = .ok values) (count : Nat) :
    numbers (cells.drop count) =
      .ok (if areWhole (cells.drop count) then (values.drop count).map oneZero
        else values.drop count) := by
  cases hraw : cells.mapM numberOf with
  | error failure =>
      simp only [numbers, hraw] at hvalues
      cases hvalues
  | ok raw =>
      have hsettled : values = if areWhole cells then raw.map oneZero else raw := by
        simp only [numbers, hraw, ok_bind, pure_eq_ok, Except.ok.injEq] at hvalues
        exact hvalues.symm
      simp only [numbers, mapM_drop hraw count, ok_bind, pure_eq_ok, Except.ok.injEq]
      by_cases hlater : areWhole (cells.drop count) = true
      · rw [if_pos hlater, if_pos hlater, hsettled]
        split
        · simp [← List.map_drop]
        · rfl
      · have hall : ¬ areWhole cells = true := fun hwhole =>
          hlater (areWhole_of_subset (fun _ hcell => List.mem_of_mem_drop hcell) hwhole)
        rw [if_neg hlater, if_neg hlater, hsettled, if_neg hall]

theorem length_numbers {cells : List Json} {values : List Float}
    (hvalues : numbers cells = .ok values) : values.length = cells.length := by
  cases hraw : cells.mapM numberOf with
  | error failure =>
      simp only [numbers, hraw] at hvalues
      cases hvalues
  | ok raw =>
      simp only [numbers, hraw, ok_bind, pure_eq_ok, Except.ok.injEq] at hvalues
      rw [← hvalues, ← length_of_mapM hraw]
      split <;> simp

/-! ### Columns of timestamps -/

/-- Cells that are all texts. -/
def AreTexts (cells : List Json) : Prop := ∀ cell ∈ cells, ∃ raw, cell = .text raw

theorem kindOf_of_areTexts {cells : List Json} (htexts : AreTexts cells) :
    kindOf cells = .text ∨ cells = [] := by
  cases cells with
  | nil => exact .inr rfl
  | cons cell rest =>
      obtain ⟨raw, rfl⟩ := htexts cell List.mem_cons_self
      left
      simp only [kindOf, surveyFrom, kindWithOthers]
      refine if_pos (List.all_eq_true.mpr fun cell hcell => ?_)
      obtain ⟨other, rfl⟩ := htexts cell hcell
      rfl

/-- The stamp that a text stands for. -/
def stampOf (cell : Json) : Option Time.Stamp := (stampText? .text cell).bind Time.Stamp.ofChars?

theorem instants_of_areTexts {cells : List Json} (htexts : AreTexts cells) :
    instants (ofCells cells).1 (ofCells cells).2 =
      (.instants (instantsOfStamps (cells.map stampOf)).1,
        (instantsOfStamps (cells.map stampOf)).2) := by
  cases kindOf_of_areTexts htexts with
  | inl hkind =>
      simp only [instants, ofCells, hkind, settle]
      rfl
  | inr hempty =>
      rw [hempty]
      rfl

/-- The instant of a stamp, which has to be near in a column with a fine one. -/
def instantOf (fine : Bool) (stamp : Option Time.Stamp) : Option Int :=
  (stamp.map (·.nanos)).filter fun nanos => !fine || isNear nanos

theorem instantsOfStamps_eq_map (stamps : List (Option Time.Stamp)) :
    (instantsOfStamps stamps).2 = stamps.map (instantOf (instantsOfStamps stamps).1) := rfl

theorem instantOf_eq_some_of_imp {fine other : Bool} (hfine : other = true → fine = true)
    {stamp : Option Time.Stamp} {instant : Int} (hinstant : instantOf fine stamp = some instant) :
    instantOf other stamp = some instant := by
  obtain ⟨hstamp, hnear⟩ := Option.filter_eq_some_iff.mp hinstant
  refine Option.filter_eq_some_iff.mpr ⟨hstamp, ?_⟩
  cases other with
  | false => rfl
  | true => simpa [hfine rfl] using hnear

theorem instantsOfStamps_drop {stamps : List (Option Time.Stamp)} {instants : List Int}
    (hinstants : (instantsOfStamps stamps).2 = instants.map some) (count : Nat) :
    (instantsOfStamps (stamps.drop count)).2 = (instants.drop count).map some := by
  have hfine : (instantsOfStamps (stamps.drop count)).1 = true →
      (instantsOfStamps stamps).1 = true := by
    simp only [instantsOfStamps, List.any_eq_true]
    rintro ⟨stamp, hstamp, hisFine⟩
    exact ⟨stamp, List.mem_of_mem_drop hstamp, hisFine⟩
  rw [List.map_drop, ← hinstants, instantsOfStamps_eq_map, instantsOfStamps_eq_map,
    ← List.map_drop]
  apply List.map_congr_left
  intro stamp hstamp
  have hmem : instantOf (instantsOfStamps stamps).1 stamp ∈ instants.map some := by
    rw [← hinstants, instantsOfStamps_eq_map]
    exact List.mem_map_of_mem (List.mem_of_mem_drop hstamp)
  obtain ⟨instant, -, hinstant⟩ := List.mem_map.mp hmem
  rw [← hinstant]
  exact instantOf_eq_some_of_imp hfine hinstant.symm

/-- Where no timestamp of a column is missing, none is among its later cells. -/
theorem instants_drop {cells : List Json} (htexts : AreTexts cells) {moments : List Int}
    (hmoments : (instants (ofCells cells).1 (ofCells cells).2).2 = moments.map some)
    (count : Nat) :
    (instants (ofCells (cells.drop count)).1 (ofCells (cells.drop count)).2).2 =
      (moments.drop count).map some := by
  have hlater : AreTexts (cells.drop count) := fun cell hcell =>
    htexts cell (List.mem_of_mem_drop hcell)
  rw [instants_of_areTexts htexts] at hmoments
  rw [instants_of_areTexts hlater, List.map_drop]
  exact instantsOfStamps_drop hmoments count

end AirQuality.Column
