import AirQuality.Proofs.Text.Blank
import AirQuality.Text.Case
import Mathlib.Data.List.Basic

/-!
# Capitals

The capital form of a character, be it one character or several, is made of characters that are
their own capital forms.  So a text in capitals is its own capital form.  Blanks are capitals too,
and no other character has a blank in its capital form.
-/

namespace AirQuality.Text

/-! ### Runs -/

namespace CaseRun

/-- Whether a run has no image among the characters of another run: its images lie beside the other
run, or between the characters of it. -/
def isClearOf (run other : CaseRun) : Bool :=
  (run.image run.last).blt other.first || other.last.blt (run.image run.first) ||
    (other.stride == 2 && (run.stride == 2 || run.first == run.last) && -run.shift ≤ run.first &&
      (run.image run.first + other.first) % 2 == 1)

theorem covers_iff {run : CaseRun} {code : Nat} : run.covers code = true ↔
    run.first ≤ code ∧ code ≤ run.last ∧ (code - run.first) % run.stride = 0 := by
  simp only [covers, Bool.and_eq_true, decide_eq_true_eq, beq_iff_eq, and_assoc]

theorem covers_single (code : Nat) : covers ⟨code, code, 1, 0⟩ code = true :=
  covers_iff.mpr ⟨Nat.le_refl code, Nat.le_refl code, Nat.mod_one _⟩

/-- No image of a run is a character of a run of which it is clear. -/
theorem covers_image {run other : CaseRun} {code : Nat} (hclear : run.isClearOf other = true)
    (hcovers : run.covers code = true) : other.covers (run.image code) = false := by
  rw [← Bool.not_eq_true, covers_iff]
  rintro ⟨hfirst, hlast, hother⟩
  obtain ⟨hleast, hgreatest, hrun⟩ := covers_iff.mp hcovers
  simp only [isClearOf, Bool.or_eq_true, Bool.and_eq_true, Nat.blt_eq, decide_eq_true_eq,
    beq_iff_eq] at hclear
  simp only [image] at hclear hfirst hlast hother
  rcases hclear with (hbelow | habove) | ⟨⟨⟨hstride, hstrides⟩, hshift⟩, hodd⟩
  · omega
  · omega
  · -- The images are of one parity and the characters of the other run are of the other.
    rw [hstride] at hother
    rcases hstrides with hstrides | hsingle
    · rw [hstrides] at hrun
      omega
    · omega

end CaseRun

/-! ### Characters -/

/-- A character that is its own capital form. -/
def IsCapital (c : Char) : Prop := mapCase upperExpansions upperRuns c = [c]

/-- Whether the character with a code has no capital form of its own. -/
def isCapitalCode (code : Nat) : Bool :=
  (upperExpansions.lookup code).isNone && upperRuns.all fun run => !run.covers code

theorem isCapital_of_code {c : Char} (hcode : isCapitalCode c.toNat = true) : IsCapital c := by
  rw [isCapitalCode, Bool.and_eq_true, Option.isNone_iff_eq_none] at hcode
  obtain ⟨hlookup, hruns⟩ := hcode
  have hfind : upperRuns.find? (·.covers c.toNat) = none := by
    rw [List.find?_eq_none]
    intro run hmem
    simpa using List.all_eq_true.mp hruns run hmem
  rw [IsCapital, mapCase, hlookup, hfind]

/-- A code of no character stands for the one with the code 0. -/
theorem toNat_ofNat (code : Nat) :
    (Char.ofNat code).toNat = code ∨ (Char.ofNat code).toNat = 0 := by
  by_cases hvalid : code.isValidChar
  · rw [Char.ofNat, dif_pos hvalid]
    exact .inl rfl
  · rw [Char.ofNat, dif_neg hvalid]
    exact .inr rfl

theorem isCapital_ofNat {code : Nat} (hcode : isCapitalCode code = true) :
    IsCapital (Char.ofNat code) := by
  apply isCapital_of_code
  rcases toNat_ofNat code with hchar | hchar
  · rwa [hchar]
  · rw [hchar]
    decide +kernel

/-- The images of a run have no capital forms of their own. -/
theorem isCapitalCode_image {run : CaseRun} (hmem : run ∈ upperRuns) {code : Nat}
    (hcovers : run.covers code = true) : isCapitalCode (run.image code) = true := by
  have hexpansions : upperRuns.all (fun run => upperExpansions.all fun (code, _) =>
      run.isClearOf ⟨code, code, 1, 0⟩) = true := by decide +kernel
  have hruns : upperRuns.all (fun run => upperRuns.all run.isClearOf) = true := by decide +kernel
  rw [isCapitalCode, Bool.and_eq_true, Option.isNone_iff_eq_none, List.lookup_eq_none_iff]
  constructor
  · intro expansion hexpansion
    have hclear := List.all_eq_true.mp (List.all_eq_true.mp hexpansions run hmem) _ hexpansion
    have hbeside := CaseRun.covers_image hclear hcovers
    rw [bne_iff_ne]
    intro hequal
    rw [hequal, CaseRun.covers_single] at hbeside
    cases hbeside
  · rw [List.all_eq_true]
    intro other hother
    have hclear := List.all_eq_true.mp (List.all_eq_true.mp hruns run hmem) other hother
    rw [CaseRun.covers_image hclear hcovers]
    rfl

theorem isCapitalCode_expansion {expansion : Nat × List Nat} (hmem : expansion ∈ upperExpansions)
    {code : Nat} (hcode : code ∈ expansion.2) : isCapitalCode code = true := by
  have hall : upperExpansions.all (fun expansion => expansion.2.all isCapitalCode) = true := by
    decide +kernel
  exact List.all_eq_true.mp (List.all_eq_true.mp hall expansion hmem) code hcode

/-- A character grows, moves with its run, or stays as it is. -/
theorem mapCase_cases (c : Char) :
    (∃ expansion ∈ upperExpansions,
        mapCase upperExpansions upperRuns c = expansion.2.map Char.ofNat) ∨
      (∃ run ∈ upperRuns, run.covers c.toNat = true ∧
        mapCase upperExpansions upperRuns c = [Char.ofNat (run.image c.toNat)]) ∨
      IsCapital c := by
  cases hlookup : upperExpansions.lookup c.toNat with
  | some codes =>
      obtain ⟨before, after, hsplit, -⟩ := List.lookup_eq_some_iff.mp hlookup
      have hexpansion : (c.toNat, codes) ∈ upperExpansions := by
        rw [hsplit]
        exact List.mem_append_right before List.mem_cons_self
      exact .inl ⟨_, hexpansion, by rw [mapCase, hlookup]⟩
  | none =>
      cases hfind : upperRuns.find? (·.covers c.toNat) with
      | some run =>
          have hcovers := List.find?_some hfind
          exact .inr (.inl ⟨run, List.mem_of_find?_eq_some hfind, hcovers,
            by rw [mapCase, hlookup, hfind]⟩)
      | none => exact .inr (.inr (by rw [IsCapital, mapCase, hlookup, hfind]))

/-- The capital form of a character is made of capitals. -/
theorem isCapital_of_mem_mapCase {c image : Char}
    (hmem : image ∈ mapCase upperExpansions upperRuns c) : IsCapital image := by
  rcases mapCase_cases c with ⟨expansion, hexpansion, hgrown⟩ | ⟨run, hrun, hcovers, hmoved⟩ | hself
  · rw [hgrown] at hmem
    obtain ⟨code, hcode, rfl⟩ := List.mem_map.mp hmem
    exact isCapital_ofNat (isCapitalCode_expansion hexpansion hcode)
  · rw [hmoved] at hmem
    obtain rfl := List.mem_singleton.mp hmem
    exact isCapital_ofNat (isCapitalCode_image hrun hcovers)
  · rw [hself] at hmem
    obtain rfl := List.mem_singleton.mp hmem
    exact hself

/-! ### Blanks -/

/-- The codes of the blanks. -/
def blankCodes : List Nat :=
  [0x09, 0x0A, 0x0B, 0x0C, 0x0D, 0x1C, 0x1D, 0x1E, 0x1F, 0x20] ++ wideBlanks

theorem toNat_mem_blankCodes {c : Char} (hblank : isBlank c = true) : c.toNat ∈ blankCodes := by
  simp only [isBlank, isAsciiBlank, Bool.or_eq_true, Bool.and_eq_true, decide_eq_true_eq,
    beq_iff_eq, List.contains_iff_mem] at hblank
  rw [blankCodes, List.mem_append]
  rcases hblank with hcontrol | hmem
  · simp only [List.mem_cons, List.not_mem_nil, or_false]
    omega
  · exact .inr hmem

theorem isCapital_of_isBlank {c : Char} (hblank : isBlank c = true) : IsCapital c := by
  have hall : blankCodes.all isCapitalCode = true := by decide +kernel
  exact isCapital_of_code (List.all_eq_true.mp hall _ (toNat_mem_blankCodes hblank))

theorem isBlank_ofNat {code : Nat} (hcode : code ∉ blankCodes) :
    isBlank (Char.ofNat code) = false := by
  rw [← Bool.not_eq_true]
  intro hblank
  have hmem := toNat_mem_blankCodes hblank
  rcases toNat_ofNat code with hchar | hchar
  · exact hcode (hchar ▸ hmem)
  · rw [hchar] at hmem
    exact absurd hmem (by decide)

theorem image_notMem_blankCodes {run : CaseRun} (hmem : run ∈ upperRuns) {code : Nat}
    (hcovers : run.covers code = true) : run.image code ∉ blankCodes := by
  have hruns : upperRuns.all (fun run => blankCodes.all fun blank =>
      run.isClearOf ⟨blank, blank, 1, 0⟩) = true := by decide +kernel
  intro hblank
  have hclear := List.all_eq_true.mp (List.all_eq_true.mp hruns run hmem) _ hblank
  have hbeside := CaseRun.covers_image hclear hcovers
  rw [CaseRun.covers_single] at hbeside
  cases hbeside

theorem expansion_notBlank {expansion : Nat × List Nat} (hmem : expansion ∈ upperExpansions) :
    expansion.2 ≠ [] ∧ ∀ code ∈ expansion.2, code ∉ blankCodes := by
  have hall : ∀ expansion ∈ upperExpansions,
      expansion.2 ≠ [] ∧ ∀ code ∈ expansion.2, code ∉ blankCodes := by decide +kernel
  exact hall expansion hmem

/-- A blank is its own capital form, and that of anything else has no blanks. -/
theorem spreads_mapCase : Spreads isBlank (mapCase upperExpansions upperRuns) where
  nonempty c := by
    rcases mapCase_cases c with ⟨expansion, hexpansion, hgrown⟩ | ⟨run, -, -, hmoved⟩ | hself
    · rw [hgrown]
      simpa using (expansion_notBlank hexpansion).1
    · simp [hmoved]
    · rw [hself]
      exact List.cons_ne_nil c []
  alike {c image} hmem := by
    cases hblank : isBlank c with
    | true =>
        rw [isCapital_of_isBlank hblank] at hmem
        rw [List.mem_singleton.mp hmem, hblank]
    | false =>
        rcases mapCase_cases c with
          ⟨expansion, hexpansion, hgrown⟩ | ⟨run, hrun, hcovers, hmoved⟩ | hself
        · rw [hgrown] at hmem
          obtain ⟨code, hcode, rfl⟩ := List.mem_map.mp hmem
          exact isBlank_ofNat ((expansion_notBlank hexpansion).2 code hcode)
        · rw [hmoved] at hmem
          rw [List.mem_singleton.mp hmem]
          exact isBlank_ofNat (image_notMem_blankCodes hrun hcovers)
        · rw [hself] at hmem
          rw [List.mem_singleton.mp hmem, hblank]

/-! ### Texts -/

variable {text : List Char}

theorem upper_append (first second : List Char) :
    upper (first ++ second) = upper first ++ upper second :=
  List.flatMap_append

theorem upper_eq_self (hcapitals : ∀ c ∈ text, IsCapital c) : upper text = text :=
  calc upper text = text.flatMap (fun c => [c]) := List.flatMap_congr hcapitals
    _ = text := List.flatMap_singleton' text

theorem isCapital_of_mem_upper {c : Char} (hmem : c ∈ upper text) : IsCapital c := by
  obtain ⟨other, -, himage⟩ := List.mem_flatMap.mp hmem
  exact isCapital_of_mem_mapCase himage

theorem upper_upper (text : List Char) : upper (upper text) = upper text :=
  upper_eq_self fun _ => isCapital_of_mem_upper

theorem upper_blanks (hblanks : isAllBlank text = true) : upper text = text :=
  upper_eq_self fun c hmem => isCapital_of_isBlank (List.all_eq_true.mp hblanks c hmem)

theorem strip_upper (text : List Char) : strip (upper text) = upper (strip text) :=
  spreads_mapCase.trimBoth_flatMap text

end AirQuality.Text
