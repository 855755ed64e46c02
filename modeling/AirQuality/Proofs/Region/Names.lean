import AirQuality.Json.Encode
import AirQuality.Proofs.Outcome
import AirQuality.Region.File
import Mathlib.Data.List.Nodup

/-!
# Regions by position and by name

A position is classified by the boxes of a table and a region is looked up by its name; each takes
the first that fits.  The two agree on a table whose names are apart in the form in which they are
compared.  A table is read whether its names are apart or not, and where two regions go by one name
the later of them is classified into but never found.
-/

namespace AirQuality.Region

open Outcome

variable {position : Coordinate} {region : Region} {table : List Region}

/-- A table in which regions that go by one name are one region. -/
def AreNamedApart (table : List Region) : Prop :=
  ∀ region ∈ table, ∀ other ∈ table, identifier region.name = identifier other.name → region = other

theorem AreNamedApart.of_nodup (hnodup : (table.map (identifier ·.name)).Nodup) :
    AreNamedApart table :=
  fun _ hregion _ hother hname => List.inj_on_of_nodup_map hnodup hregion hother hname

/-- A region of a table before which no other goes by its name. -/
def IsNamedFirst (region : Region) (table : List Region) : Prop :=
  ∃ earlier later, table = earlier ++ region :: later ∧
    ∀ other ∈ earlier, identifier other.name ≠ identifier region.name

/-! ### By name -/

theorem find_eq_ok_iff {name : String} :
    find name table = .ok region ↔
      identifier region.name = identifier name ∧ region.IsNamedFirst table := by
  have hfind : find name table = .ok region ↔
      (table.find? fun other => identifier other.name = identifier name) = some region := by
    rw [find]
    cases table.find? fun other => identifier other.name = identifier name with
    | none => exact ⟨nofun, nofun⟩
    | some other => exact ⟨fun hok => congrArg some (Except.ok.inj hok),
        fun hsome => congrArg Except.ok (Option.some.inj hsome)⟩
  rw [hfind, List.find?_eq_some_iff_append, decide_eq_true_iff]
  apply and_congr_right
  intro hname
  rw [IsNamedFirst, hname]
  simp

theorem find_name_iff : find region.name table = .ok region ↔ region.IsNamedFirst table := by
  rw [find_eq_ok_iff, and_iff_right rfl]

/-- Of the regions that go by the name of a region of the table, the first is found. -/
theorem exists_find_name (hmem : region ∈ table) :
    ∃ found ∈ table, find region.name table = .ok found ∧
      identifier found.name = identifier region.name := by
  cases hfound : table.find? fun other => identifier other.name = identifier region.name with
  | none => simpa using List.find?_eq_none.mp hfound region hmem
  | some found =>
      refine ⟨found, List.mem_of_find?_eq_some hfound, ?_, ?_⟩
      · rw [find, hfound]
      · simpa using List.find?_some hfound

theorem AreNamedApart.find_name (happart : AreNamedApart table) (hmem : region ∈ table) :
    find region.name table = .ok region := by
  obtain ⟨found, hfound, hfind, hname⟩ := exists_find_name hmem
  rw [hfind, happart found hfound region hmem hname]

/-- All names of a table find the regions they stand for if and only if they are apart. -/
theorem mapM_find_names_iff :
    (names table).mapM (find · table) = .ok table ↔ AreNamedApart table := by
  have hsplit : (names table).mapM (find · table) =
      table.mapM fun region => find region.name table := by
    rw [names, List.mapM_map]
    rfl
  rw [hsplit]
  constructor
  · intro hnames
    have hmap : table.mapM (fun region => find region.name table) = .ok (table.map id) := by
      rw [hnames, List.map_id]
    have hown : ∀ region ∈ table, find region.name table = .ok region :=
      fun region hmem => eq_ok_of_mapM_eq_map hmap hmem
    intro region hmem other hother hname
    have hsame := (find_eq_ok_iff.mp (hown other hother)).2
    have hfind : find region.name table = .ok other := find_eq_ok_iff.mpr ⟨hname.symm, hsame⟩
    exact Except.ok.inj ((hown region hmem).symm.trans hfind)
  · intro happart
    calc table.mapM (fun region => find region.name table)
        = .ok (table.map id) := mapM_eq_ok_map fun region hmem => happart.find_name hmem
      _ = .ok table := by rw [List.map_id]

/-! ### By position -/

/-- The region a position is classified into is in the table, and its box contains the position. -/
theorem mem_of_firstContaining (hfirst : firstContaining position table = .ok (some region)) :
    region ∈ table ∧ region.contains position = .ok true := by
  induction table with
  | nil => cases hfirst
  | cons first rest ih =>
      rw [firstContaining] at hfirst
      cases hcontains : first.contains position with
      | error failure =>
          rw [hcontains] at hfirst
          cases hfirst
      | ok isInside =>
          rw [hcontains, ok_bind] at hfirst
          cases isInside with
          | true =>
              cases hfirst
              exact ⟨List.mem_cons_self, hcontains⟩
          | false =>
              obtain ⟨hmem, hinside⟩ := ih hfirst
              exact ⟨List.mem_cons_of_mem first hmem, hinside⟩

theorem mem_of_classify (hclassify : classify position table = .ok (some region)) :
    region ∈ table ∧ region.holds position = .ok true := by
  obtain ⟨⟨⟩, hcheck, hfirst⟩ := bind_eq_ok hclassify
  obtain ⟨hmem, hcontains⟩ := mem_of_firstContaining hfirst
  refine ⟨hmem, ?_⟩
  rw [holds, hcheck, ok_bind, hcontains]

/-! ### Both -/

/-- The names of a table find its regions, each in its place, if and only if they are apart.  A
region into which a position is classified has a box that holds the position; it is found by its own
name if and only if no earlier region goes by that name, and so whenever the names are apart. -/
theorem lookup_agrees (table : List Region) :
    ((names table).mapM (find · table) = .ok table ↔ AreNamedApart table) ∧
      ∀ position region, classify position table = .ok (some region) →
        region.holds position = .ok true ∧
        (find region.name table = .ok region ↔ region.IsNamedFirst table) ∧
        (AreNamedApart table → find region.name table = .ok region) := by
  refine ⟨mapM_find_names_iff, ?_⟩
  intro position region hclassify
  obtain ⟨hmem, hholds⟩ := mem_of_classify hclassify
  exact ⟨hholds, find_name_iff, fun happart => happart.find_name hmem⟩

def warsaw : Coordinate := ⟨.float 52.2, .float 21.0⟩

/-- Warsaw is in the seventh of the voivodeships, and all sixteen names are apart. -/
theorem lookup_agrees_warsaw :
    (names voivodeships).mapM (find · voivodeships) = .ok voivodeships ∧
      ∃ region, classify warsaw voivodeships = .ok (some region) ∧ region.name = "mazowieckie" ∧
        region.holds warsaw = .ok true ∧ find region.name voivodeships = .ok region := by
  obtain ⟨hnames, hclassified⟩ := lookup_agrees voivodeships
  have happart : AreNamedApart voivodeships := .of_nodup (by decide +kernel)
  have hwarsaw : (classify warsaw voivodeships).toOption = some voivodeships[6]? := by
    decide +kernel
  cases hclassify : classify warsaw voivodeships with
  | error failure =>
      rw [hclassify] at hwarsaw
      cases hwarsaw
  | ok region =>
      rw [hclassify] at hwarsaw
      cases hwarsaw
      obtain ⟨hholds, -, hfind⟩ := hclassified _ _ hclassify
      exact ⟨hnames.mpr happart, _, rfl, rfl, hholds, hfind happart⟩

def uplands : Region := ⟨"north", tenths 500, tenths 600, tenths 0, tenths 100⟩

/-- The box south of the other, with a name that differs from the other's in a capital. -/
def lowlands : Region := ⟨"North", tenths 400, tenths 500, tenths 0, tenths 100⟩

def onlyCapitalsApart : TextFile :=
  ⟨"regions.json",
    some ((Json.list [uplands.toJson, lowlands.toJson]).encode.toList.map Char.toNat)⟩

/-- The table is read, and a position in the southern box is classified into it; but under its name
the northern box is found, which does not hold the position. -/
theorem lookup_agrees_onlyCapitalsApart :
    (ofFile onlyCapitalsApart).toOption = some [uplands, lowlands] ∧
      (classify ⟨.int 45, .int 5⟩ [uplands, lowlands]).toOption = some (some lowlands) ∧
      (find lowlands.name [uplands, lowlands]).toOption = some uplands ∧
      (uplands.holds ⟨.int 45, .int 5⟩).toOption = some false ∧
      ((names [uplands, lowlands]).mapM (find · [uplands, lowlands])).toOption =
        some [uplands, uplands] := by
  decide +kernel

end AirQuality.Region
