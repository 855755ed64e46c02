import AirQuality.Proofs.Region.File

/-!
# Points in files

A table of points is read exactly if each of its entries has an id and a position.  This and the
table of regions are the files that a caller may hand in, and whatever is in them, reading them
comes to a table or to a failure that the caller can mend.  Two things are overlooked: an integer
out of reach, and a document nested deeper than its reader can go.
-/

namespace AirQuality

open Outcome

namespace OpenMeteo

variable {entry : Json} {point : Station}

/-! ### Entries -/

/-- What an entry of a table says of a point: its id, its name, if any, and its position in numbers
or in texts that stand for numbers. -/
structure IsPointOf (entry : Json) (point : Station) : Prop where
  id : ∃ id, entry.field "id" = .ok id ∧ point.id = id.display
  displayName : entry.fieldOrNull "name" = .ok point.displayName
  latitude : ∃ number, entry.numberAt "latitude" = .ok number ∧ point.latitude = .float number
  longitude : ∃ number, entry.numberAt "longitude" = .ok number ∧ point.longitude = .float number
  source : point.source = name

/-- An entry with an id in which an integer too large for a position is met first. -/
def Overflows (entry : Json) : Prop :=
  (∃ id, entry.field "id" = .ok id) ∧ entry.Overflows ["latitude", "longitude"]

theorem pointOfEntry_eq (entry : Json) :
    pointOfEntry entry = (do
      let id ← entry.field "id"
      let displayName ← entry.fieldOrNull "name"
      let latitude ← entry.numberAt "latitude"
      let longitude ← entry.numberAt "longitude"
      pure ⟨id.display, displayName, .float latitude, .float longitude, name⟩) := by
  simp only [pointOfEntry, Json.numberAt, bind_assoc]

theorem pointOfEntry_eq_ok_iff : pointOfEntry entry = .ok point ↔ IsPointOf entry point := by
  rw [pointOfEntry_eq]
  constructor
  · intro hread
    obtain ⟨id, hid, hread⟩ := bind_eq_ok hread
    obtain ⟨displayName, hname, hread⟩ := bind_eq_ok hread
    obtain ⟨latitude, hlatitude, hread⟩ := bind_eq_ok hread
    obtain ⟨longitude, hlongitude, hread⟩ := bind_eq_ok hread
    cases hread
    exact ⟨⟨id, hid, rfl⟩, hname, ⟨latitude, hlatitude, rfl⟩, ⟨longitude, hlongitude, rfl⟩, rfl⟩
  · rintro ⟨⟨id, hid, hidentified⟩, hname, ⟨latitude, hlatitude, hnorthward⟩,
      ⟨longitude, hlongitude, heastward⟩, hsource⟩
    simp only [hid, hname, hlatitude, hlongitude, ok_bind, pure_eq_ok, ← hidentified,
      ← hnorthward, ← heastward, ← hsource]

theorem pointOfEntry_eq_tooLarge_iff :
    pointOfEntry entry = .error (.number .integerTooLarge) ↔ Overflows entry := by
  simp only [pointOfEntry_eq, Json.field_bind_eq_tooLarge_iff,
    Json.fieldOrNull_bind_eq_tooLarge_iff, Json.numberAt_bind_eq_tooLarge_iff, pure_eq_ok,
    reduceCtorEq, Overflows, Json.overflows_cons, Json.not_overflows_nil, and_false, exists_false,
    or_false, exists_and_right]
  exact and_congr_right fun ⟨id, hid⟩ => and_iff_right (Json.exists_fieldOrNull hid "name")

theorem meets_pointOfEntry (entry : Json) :
    Meets (fun _ => True) Failure.IsOfEntry (pointOfEntry entry) := by
  rw [pointOfEntry_eq]
  refine (Json.meets_field _ _).bind fun id _ => ?_
  have hname := (Json.meets_fieldOrNull "name" entry).mono fun _ => Failure.IsOfShape.isOfEntry
  refine hname.bind fun displayName _ => ?_
  refine (Json.meets_numberAt _ _).bind fun latitude _ => ?_
  exact (Json.meets_numberAt _ _).bind fun longitude _ => trivial

/-! ### Tables -/

theorem pointsOfFile_eq (file : TextFile) (room : Nat) :
    pointsOfFile file room = file.readTable .unreadableStations .stationsNotAList (fun entry =>
      TextFile.inEntry (.invalidStation entry) (pointOfEntry entry)) room := rfl

theorem meets_readPoint (entry : Json) : Meets (fun _ => True) Failure.IsOfItem
    (TextFile.inEntry (.invalidStation entry) (pointOfEntry entry)) :=
  TextFile.meets_inEntry (meets_pointOfEntry entry)

theorem meets_pointsOfFile (file : TextFile) (room : Nat) :
    Meets (fun _ => True) Failure.IsOfTable (pointsOfFile file room) := by
  rw [pointsOfFile_eq]
  exact TextFile.meets_readTable meets_readPoint

theorem isReadAs_pointsOfFile (file : TextFile) (room : Nat) :
    file.IsReadAs room IsPointOf Overflows (pointsOfFile file room) := by
  rw [pointsOfFile_eq]
  exact TextFile.isReadAs_readTable
    (fun _ _ => TextFile.inEntry_eq_ok_iff.trans pointOfEntry_eq_ok_iff) meets_readPoint
    fun _ => TextFile.inEntry_eq_tooLarge_iff.trans pointOfEntry_eq_tooLarge_iff

/-! ### Tables of either kind -/

/-- Whatever is in a file, as a table of regions or of points it is read item by item, in the order
of its entries, or it fails in a way that the caller can mend, unless the first entry that describes
no item fails for an integer that is too large, or the document is nested too deep for the room that
its reader has. -/
theorem tables_areRead (file : TextFile) (room : Nat) (notes : List Log.Entry) :
    file.IsReadAs room Region.IsReadFrom Region.Overflows (Region.load file room notes).1 ∧
      file.IsReadAs room IsPointOf Overflows (pointsOfFile file room) :=
  ⟨Region.isReadAs_load file room notes, isReadAs_pointsOfFile file room⟩

/-- A result, or a failure that the caller can mend. -/
def isMendable {α : Type} : Except Failure α → Bool
  | .ok _ => true
  | .error failure => failure.isClientError

/-- A file in which an integer of 310 digits stands between two texts. -/
def farFile (before after : String) : TextFile :=
  let characters := before.toList ++ '1' :: List.replicate 309 '0' ++ after.toList
  ⟨"far.json", some (characters.map Char.toNat)⟩

/-- A table of one region, whose southern bound is out of reach. -/
def farRegions : TextFile :=
  farFile "[\x7b\"name\": \"far\", \"min_lat\": "
    ", \"max_lat\": 60, \"min_lon\": 0, \"max_lon\": 10\x7d]"

/-- A table of one point, whose latitude is out of reach. -/
def farPoints : TextFile :=
  farFile "[\x7b\"id\": \"far\", \"latitude\": " ", \"longitude\": 21.0\x7d]"

/-- Neither table is read, and the caller is not told that the file is to blame. -/
theorem tables_areRead_far :
    isMendable (Region.load farRegions Json.maxRoom []).1 = false ∧
      isMendable (pointsOfFile farPoints) = false := by
  constructor
  · decide +kernel
  · decide +kernel

/-! ### Files without enough room -/

/-- A file that opens one list more than there is room for. -/
def deepFile (room : Nat) : TextFile := ⟨"deep.json", some (List.replicate (room + 1) '['.toNat)⟩

theorem decodeFrom_replicate (count position : Nat) :
    Text.Utf8.decodeFrom count position (List.replicate count '['.toNat) =
      .ok (List.replicate count '[') := by
  induction count generalizing position with
  | zero => rfl
  | succ count ih =>
      change Except.map _ (Text.Utf8.decodeFrom count _ (List.replicate count '['.toNat)) = _
      rw [ih]
      rfl

theorem joinLineEnds_replicate (count : Nat) :
    Text.Utf8.joinLineEnds (List.replicate count '[') = List.replicate count '[' := by
  induction count with
  | zero => rfl
  | succ count ih => exact congrArg ('[' :: ·) ih

theorem readJson_deepFile (room : Nat) (unreadable : (path cause : String) → ArgumentFault) :
    (deepFile room).readJson unreadable room = .error (.tooDeep .list) := by
  have hcharacters : Text.Utf8.decode (List.replicate (room + 1) '['.toNat) =
      .ok (List.replicate (room + 1) '[') := by
    rw [Text.Utf8.decode, List.length_replicate, decodeFrom_replicate]
  have hdocument := Json.decode_replicate room []
  rw [List.append_nil] at hdocument
  simp only [TextFile.readJson, deepFile, hcharacters, joinLineEnds_replicate, hdocument]

/-- However much room there is, some file is nested too deep for it, be it a table of regions or of
points, and the words of its failure do not name the file. -/
theorem tables_areTooDeep (room : Nat) (notes : List Log.Entry) :
    (Region.load (deepFile room) room notes).1 = .error (.tooDeep .list) ∧
      pointsOfFile (deepFile room) room = .error (.tooDeep .list) := by
  constructor
  · rw [Region.load_fst, Region.ofFile, readJson_deepFile]
    rfl
  · rw [pointsOfFile, readJson_deepFile]
    rfl

end OpenMeteo

end AirQuality
