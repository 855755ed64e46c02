import AirQuality.Json.Encode
import AirQuality.Proofs.Decimal.Number
import AirQuality.Proofs.TextFile

/-!
# Boxes in files

A table of regions is read exactly if each of its entries has a name and four bounds and no box is
inverted.  A box that is not inverted is a proper one, which holds its own corners, exactly if its
bounds are numbers: a bound that is NaN is neither before nor behind the other, so that such a box
passes for one that is not inverted, and holds no position at all.
-/

namespace AirQuality.Region

open Outcome
open Decimal (Number)

variable {region : Region} {entry : Json}

/-! ### Boxes -/

/-- A box whose bounds are the right way round. -/
structure IsProper (region : Region) : Prop where
  latitude : region.south.le region.north = true
  longitude : region.west.le region.east = true

/-- A box whose bounds are all numbers. -/
structure IsBounded (region : Region) : Prop where
  south : region.south.isNaN = false
  north : region.north.isNaN = false
  west : region.west.isNaN = false
  east : region.east.isNaN = false

def corners (region : Region) : List Coordinate :=
  [⟨.ofNumber region.south, .ofNumber region.west⟩,
    ⟨.ofNumber region.south, .ofNumber region.east⟩,
    ⟨.ofNumber region.north, .ofNumber region.west⟩,
    ⟨.ofNumber region.north, .ofNumber region.east⟩]

theorem IsProper.isBounded (hproper : region.IsProper) : region.IsBounded := by
  obtain ⟨hsouth, hnorth⟩ := Number.isNaN_of_le hproper.latitude
  obtain ⟨hwest, heast⟩ := Number.isNaN_of_le hproper.longitude
  exact ⟨hsouth, hnorth, hwest, heast⟩

/-- Among boxes with numbers for bounds, the proper ones are those that are not inverted. -/
theorem IsBounded.isProper_iff (hbounded : region.IsBounded) :
    region.IsProper ↔ region.isInverted = false := by
  have hlatitude := Number.le_eq_not_lt hbounded.south hbounded.north
  have hlongitude := Number.le_eq_not_lt hbounded.west hbounded.east
  rw [isInverted, Bool.or_eq_false_iff]
  constructor
  · rintro ⟨hsouth, hwest⟩
    rw [hlatitude, Bool.not_eq_true'] at hsouth
    rw [hlongitude, Bool.not_eq_true'] at hwest
    exact ⟨hsouth, hwest⟩
  · rintro ⟨hsouth, hwest⟩
    rw [hsouth] at hlatitude
    rw [hwest] at hlongitude
    exact ⟨hlatitude, hlongitude⟩

theorem contains_ofNumber (region : Region) (latitude longitude : Number) :
    region.contains ⟨.ofNumber latitude, .ofNumber longitude⟩ =
      .ok ((region.south.le latitude && latitude.le region.north) &&
        (region.west.le longitude && longitude.le region.east)) := by
  have hwithin (low high number : Number) : Coordinate.isWithin low high (.ofNumber number) =
      .ok (low.le number && number.le high) := by
    cases number <;> rfl
  rw [contains, hwithin, ok_bind]
  cases region.south.le latitude && latitude.le region.north with
  | true => exact hwithin _ _ _
  | false => rfl

/-- The proper boxes are those that hold their own corners. -/
theorem isProper_iff_contains_corners :
    region.IsProper ↔ ∀ corner ∈ region.corners, region.contains corner = .ok true := by
  constructor
  · intro hproper
    obtain ⟨hsouth, hnorth, hwest, heast⟩ := hproper.isBounded
    simp [corners, contains_ofNumber, hproper.latitude, hproper.longitude, Number.le_self, *]
  · intro hcorners
    have hnear := hcorners _ List.mem_cons_self
    simp only [contains_ofNumber, Except.ok.injEq, Bool.and_eq_true] at hnear
    exact ⟨hnear.1.2, hnear.2.2⟩

/-! ### Entries -/

/-- What an entry of a table says of a region: its name, and its bounds as numbers or as texts that
stand for numbers. -/
structure IsOf (entry : Json) (region : Region) : Prop where
  name : ∃ name, entry.field "name" = .ok name ∧ region.name = name.display
  south : ∃ bound, entry.numberAt "min_lat" = .ok bound ∧ region.south = .real bound
  north : ∃ bound, entry.numberAt "max_lat" = .ok bound ∧ region.north = .real bound
  west : ∃ bound, entry.numberAt "min_lon" = .ok bound ∧ region.west = .real bound
  east : ∃ bound, entry.numberAt "max_lon" = .ok bound ∧ region.east = .real bound

/-- An entry that is accepted for a region: it says what the region is, and the box is not
inverted. -/
def IsReadFrom (entry : Json) (region : Region) : Prop :=
  IsOf entry region ∧ region.isInverted = false

/-- The fields of an entry that hold bounds, in the order in which they are read. -/
def boundFields : List String := ["min_lat", "max_lat", "min_lon", "max_lon"]

/-- An entry with a name in which an integer too large for a bound is met first. -/
def Overflows (entry : Json) : Prop :=
  (∃ name, entry.field "name" = .ok name) ∧ entry.Overflows boundFields

theorem ofEntry_eq (entry : Json) :
    ofEntry entry = (do
      let name ← entry.field "name"
      let south ← entry.numberAt "min_lat"
      let north ← entry.numberAt "max_lat"
      let west ← entry.numberAt "min_lon"
      let east ← entry.numberAt "max_lon"
      pure ⟨name.display, .real south, .real north, .real west, .real east⟩) := by
  simp only [ofEntry, Json.numberAt, bind_assoc]

theorem ofEntry_eq_ok_iff : ofEntry entry = .ok region ↔ IsOf entry region := by
  rw [ofEntry_eq]
  constructor
  · intro hread
    obtain ⟨name, hname, hread⟩ := bind_eq_ok hread
    obtain ⟨south, hsouth, hread⟩ := bind_eq_ok hread
    obtain ⟨north, hnorth, hread⟩ := bind_eq_ok hread
    obtain ⟨west, hwest, hread⟩ := bind_eq_ok hread
    obtain ⟨east, heast, hread⟩ := bind_eq_ok hread
    cases hread
    exact ⟨⟨name, hname, rfl⟩, ⟨south, hsouth, rfl⟩, ⟨north, hnorth, rfl⟩, ⟨west, hwest, rfl⟩,
      ⟨east, heast, rfl⟩⟩
  · rintro ⟨⟨name, hname, hnamed⟩, ⟨south, hsouth, hlow⟩, ⟨north, hnorth, hhigh⟩,
      ⟨west, hwest, hleft⟩, ⟨east, heast, hright⟩⟩
    simp only [hname, hsouth, hnorth, hwest, heast, ok_bind, pure_eq_ok, ← hnamed, ← hlow, ← hhigh,
      ← hleft, ← hright]

theorem ofEntry_eq_tooLarge_iff :
    ofEntry entry = .error (.number .integerTooLarge) ↔ Overflows entry := by
  simp only [ofEntry_eq, Json.field_bind_eq_tooLarge_iff, Json.numberAt_bind_eq_tooLarge_iff,
    pure_eq_ok, reduceCtorEq, Overflows, boundFields, Json.overflows_cons, Json.not_overflows_nil,
    and_false, exists_false, or_false, exists_and_right]

theorem meets_ofEntry (entry : Json) :
    Meets (fun _ => True) Failure.IsOfEntry (ofEntry entry) := by
  rw [ofEntry_eq]
  refine (Json.meets_field _ _).bind fun name _ => ?_
  refine (Json.meets_numberAt _ _).bind fun south _ => ?_
  refine (Json.meets_numberAt _ _).bind fun north _ => ?_
  refine (Json.meets_numberAt _ _).bind fun west _ => ?_
  exact (Json.meets_numberAt _ _).bind fun east _ => trivial

theorem readEntry_eq_ok_iff : readEntry entry = .ok region ↔ IsReadFrom entry region := by
  constructor
  · intro hread
    obtain ⟨other, hentry, hchecked⟩ := bind_eq_ok hread
    cases hinverted : other.isInverted with
    | true => simp [hinverted] at hchecked
    | false =>
        simp only [hinverted, Bool.false_eq_true, if_false, pure_eq_ok, Except.ok.injEq] at hchecked
        subst hchecked
        exact ⟨ofEntry_eq_ok_iff.mp (TextFile.inEntry_eq_ok_iff.mp hentry), hinverted⟩
  · rintro ⟨hentry, hinverted⟩
    rw [readEntry, TextFile.inEntry_eq_ok_iff.mpr (ofEntry_eq_ok_iff.mpr hentry), ok_bind,
      hinverted]
    rfl

theorem readEntry_eq_tooLarge_iff :
    readEntry entry = .error (.number .integerTooLarge) ↔ Overflows entry := by
  rw [readEntry, bind_eq_error_iff, TextFile.inEntry_eq_tooLarge_iff, ofEntry_eq_tooLarge_iff]
  apply or_iff_left
  rintro ⟨other, -, hchecked⟩
  cases hinverted : other.isInverted <;> simp [hinverted] at hchecked

theorem meets_readEntry (entry : Json) :
    Meets (fun _ => True) Failure.IsOfItem (readEntry entry) := by
  refine (TextFile.meets_inEntry (meets_ofEntry entry)).bind fun region _ => ?_
  cases hinverted : region.isInverted with
  | true => exact .argument _
  | false => trivial

/-! ### Tables -/

theorem load_fst (file : TextFile) (room : Nat) (notes : List Log.Entry) :
    (load file room notes).1 = ofFile file room := by
  unfold load
  generalize ofFile file room = outcome
  cases outcome with
  | ok table => rfl
  | error failure => rfl

theorem ofFile_eq (file : TextFile) (room : Nat) :
    ofFile file room = file.readTable .unreadableRegions .regionsNotAList readEntry room := rfl

theorem isReadAs_load (file : TextFile) (room : Nat) (notes : List Log.Entry) :
    file.IsReadAs room IsReadFrom Overflows (load file room notes).1 := by
  rw [load_fst, ofFile_eq]
  exact TextFile.isReadAs_readTable (fun _ _ => readEntry_eq_ok_iff) meets_readEntry
    fun _ => readEntry_eq_tooLarge_iff

/-- A table is read exactly if the file holds a list of entries, each of which says what its region
is, and no box is inverted.  Of the boxes that are read the proper ones are those whose bounds are
numbers, and they are the ones that hold their own corners. -/
theorem load_boxes (file : TextFile) (room : Nat) (notes : List Log.Entry) :
    (∀ table, (load file room notes).1 = .ok table ↔
      ∃ entries, file.Holds (.list entries) room ∧ List.Forall₂ IsReadFrom entries table) ∧
    ∀ table, (load file room notes).1 = .ok table → ∀ region ∈ table,
      (region.IsProper ↔ region.IsBounded) ∧
        (region.IsProper ↔ ∀ corner ∈ region.corners, region.contains corner = .ok true) := by
  refine ⟨(isReadAs_load file room notes).items, fun table htable region hmem => ?_⟩
  rw [load_fst, ofFile_eq] at htable
  obtain ⟨entries, -, hentries⟩ := TextFile.readTable_eq_ok_iff.mp htable
  obtain ⟨entry, -, hentry⟩ := exists_mem_of_mapM hentries hmem
  have hinverted := (readEntry_eq_ok_iff.mp hentry).2
  have hproper : region.IsBounded → region.IsProper := fun hbounded =>
    hbounded.isProper_iff.mpr hinverted
  exact ⟨⟨IsProper.isBounded, hproper⟩, isProper_iff_contains_corners⟩

/-- A file with some entries. -/
def fileOf (entries : List Json) : TextFile :=
  ⟨"regions.json", some ((Json.list entries).encode.toList.map Char.toNat)⟩

/-- An entry for a box between the meridians 0 and 10. -/
def entryOf (name : String) (south north : Json) : Json :=
  .object [("name", .text name), ("min_lat", south), ("max_lat", north), ("min_lon", .int 0),
    ("max_lon", .int 10)]

def boxOf (name : String) (south north : Float) : Region :=
  ⟨name, .real south, .real north, .real 0, .real 10⟩

/-- A table of two halves of a belt, with bounds that are an integer, another number and texts. -/
def halves : TextFile :=
  fileOf [entryOf "north" (.float 0.5) (.text "inf"), entryOf "south" (.int (-90)) (.text " 5e-1")]

/-- Both halves are read, and hold their corners, although one of them has no end. -/
theorem load_boxes_halves :
    (load halves Json.maxRoom []).1 =
        .ok [boxOf "north" 0.5 Decimal.positiveInfinity, boxOf "south" (-90) 0.5] ∧
      ∀ region ∈ [boxOf "north" 0.5 Decimal.positiveInfinity, boxOf "south" (-90) 0.5],
        region.IsProper ∧ ∀ corner ∈ region.corners, region.contains corner = .ok true := by
  have hread : (load halves Json.maxRoom []).1 =
      .ok [boxOf "north" 0.5 Decimal.positiveInfinity, boxOf "south" (-90) 0.5] :=
    eq_ok_of_toOption (by decide +kernel)
  refine ⟨hread, fun region hmem => ?_⟩
  obtain ⟨hproper, hcorners⟩ := (load_boxes halves Json.maxRoom []).2 _ hread region hmem
  have hbounded : region.IsBounded := by
    simp only [List.mem_cons, List.not_mem_nil, or_false] at hmem
    rcases hmem with rfl | rfl
    · exact ⟨by decide +kernel, by decide +kernel, by decide +kernel, by decide +kernel⟩
    · exact ⟨by decide +kernel, by decide +kernel, by decide +kernel, by decide +kernel⟩
  exact ⟨hproper.mpr hbounded, hcorners.mp (hproper.mpr hbounded)⟩

/-- A box with a bound that is NaN. -/
def nowhere : Region := boxOf "nowhere" Decimal.notANumber 60

/-- Such a box is read, although it is no proper one and holds none of its corners. -/
theorem load_boxes_nowhere :
    (load (fileOf [entryOf "nowhere" (.text "nan") (.int 60)]) Json.maxRoom []).1.toOption =
        some [nowhere] ∧
      ¬nowhere.IsProper ∧
      ∀ corner ∈ nowhere.corners, (nowhere.contains corner).toOption = some false := by
  have hunordered : nowhere.south.le nowhere.north = false := by decide +kernel
  refine ⟨by decide +kernel, fun hproper => ?_, by decide +kernel⟩
  rw [hproper.latitude] at hunordered
  cases hunordered

end AirQuality.Region
