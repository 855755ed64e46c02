import AirQuality.Proofs.Nesting
import AirQuality.Proofs.Outcome
import AirQuality.Proofs.Payload
import AirQuality.Region.File
import AirQuality.Source.OpenMeteo
import Mathlib.Data.List.Forall2

/-!
# Tables in files

The tables of regions and of points are read alike.  A file that holds a list is read entry by
entry, in its order, and each entry that says what it has to comes to an item.  Whatever else is in
the file, a caller can mend it, but for two things.  An integer too large for a binary64 number, met
before anything else is wrong, fails with the words of the arithmetic.  A document nested too deep
for the room that its reader has fails with those of the interpreter.
-/

namespace AirQuality

open Outcome

variable {α : Type}

/-- What may be wrong with an entry of a table. -/
inductive Failure.IsOfEntry : Failure → Prop
  | argument (fault : ArgumentFault) : IsOfEntry (.argument fault)
  | shape (fault : ShapeFault) : IsOfEntry (.shape fault)
  | tooLarge : IsOfEntry (.number .integerTooLarge)

theorem Failure.IsOfShape.isOfEntry {failure : Failure} (hshape : failure.IsOfShape) :
    failure.IsOfEntry := by
  obtain ⟨fault, rfl⟩ := hshape
  exact .shape fault

/-- What may be wrong with an entry in the words of its table. -/
inductive Failure.IsOfItem : Failure → Prop
  | argument (fault : ArgumentFault) : IsOfItem (.argument fault)
  | tooLarge : IsOfItem (.number .integerTooLarge)

/-- What may be wrong with a table. -/
inductive Failure.IsOfTable : Failure → Prop
  | item (failure : Failure) (hitem : failure.IsOfItem) : IsOfTable failure
  | undecodable (fault : Text.Utf8.Fault) : IsOfTable (.undecodable fault)
  | tooDeep (kind : Json.Kind) : IsOfTable (.tooDeep kind)

theorem Failure.IsOfTable.isClientError_or {failure : Failure} (htable : failure.IsOfTable) :
    failure.isClientError = true ∨ failure = .number .integerTooLarge ∨
      ∃ kind, failure = .tooDeep kind := by
  cases htable with
  | item _ hitem =>
      cases hitem with
      | argument fault => exact .inl rfl
      | tooLarge => exact .inr (.inl rfl)
  | undecodable fault => exact .inl rfl
  | tooDeep kind => exact .inr (.inr ⟨kind, rfl⟩)

/-! ### Entries -/

namespace Json

variable {entry : Json} {name : String} {names : List String}

/-- The number that a field of an entry is or stands for. -/
def numberAt (entry : Json) (name : String) : Except Failure Float := do
  (← entry.field name).toFloat

/-- An entry with an integer in a field that is too large for a binary64 number. -/
def IsTooLargeAt (entry : Json) (name : String) : Prop :=
  ∃ count, entry.field name = .ok (.int count) ∧ Decimal.ofInt? count = none

/-- An entry in which the first of some fields without a number has an integer that is too large to
be one. -/
def Overflows (entry : Json) (names : List String) : Prop :=
  ∃ before name after, names = before ++ name :: after ∧
    (∀ other ∈ before, ∃ number, entry.numberAt other = .ok number) ∧ entry.IsTooLargeAt name

theorem not_overflows_nil (entry : Json) : ¬entry.Overflows [] := by
  rintro ⟨before, name, after, hsplit, -⟩
  cases before <;> cases hsplit

theorem overflows_cons : entry.Overflows (name :: names) ↔
    entry.IsTooLargeAt name ∨ (∃ number, entry.numberAt name = .ok number) ∧
      entry.Overflows names := by
  constructor
  · rintro ⟨before, last, after, hsplit, hbefore, hlarge⟩
    cases before with
    | nil =>
        cases hsplit
        exact .inl hlarge
    | cons first rest =>
        cases hsplit
        obtain ⟨hfirst, hrest⟩ := List.forall_mem_cons.mp hbefore
        exact .inr ⟨hfirst, rest, last, after, rfl, hrest, hlarge⟩
  · rintro (hlarge | ⟨hfirst, rest, last, after, rfl, hrest, hlarge⟩)
    · exact ⟨[], name, names, rfl, List.forall_mem_nil _, hlarge⟩
    · exact ⟨name :: rest, last, after, rfl, List.forall_mem_cons.mpr ⟨hfirst, hrest⟩, hlarge⟩

theorem meets_field (name : String) (value : Json) :
    Meets (fun _ => True) Failure.IsOfEntry (value.field name) := by
  cases value with
  | object fields =>
      unfold field
      dsimp only
      cases fields.lookup name with
      | none => exact .shape _
      | some found => trivial
  | _ => exact .shape _

theorem meets_toFloat (value : Json) :
    Meets (fun _ => True) Failure.IsOfEntry value.toFloat := by
  cases value with
  | text raw =>
      unfold toFloat
      dsimp only
      cases Decimal.permissiveStyle.readFloat? raw.toList with
      | none => exact .argument _
      | some number => trivial
  | int whole =>
      unfold toFloat
      dsimp only
      cases Decimal.ofInt? whole with
      | none => exact .tooLarge
      | some number => trivial
  | float number => trivial
  | bool value => cases value <;> trivial
  | _ => exact .shape _

theorem meets_numberAt (entry : Json) (name : String) :
    Meets (fun _ => True) Failure.IsOfEntry (entry.numberAt name) :=
  (meets_field name entry).bind fun value _ => meets_toFloat value

theorem field_ne_tooLarge (entry : Json) (name : String) :
    entry.field name ≠ .error (.number .integerTooLarge) := by
  cases entry with
  | object fields =>
      unfold field
      dsimp only
      cases fields.lookup name with
      | none => exact nofun
      | some found => exact nofun
  | _ => exact nofun

theorem field_bind_eq_tooLarge_iff {next : Json → Except Failure α} :
    (entry.field name >>= next) = .error (.number .integerTooLarge) ↔
      ∃ value, entry.field name = .ok value ∧ next value = .error (.number .integerTooLarge) := by
  rw [bind_eq_error_iff, or_iff_right (field_ne_tooLarge entry name)]

/-- What has a field is an object, in which a name may be missing. -/
theorem exists_fieldOrNull {value : Json} (hfield : entry.field name = .ok value)
    (other : String) : ∃ found, entry.fieldOrNull other = .ok found := by
  cases entry with
  | object fields => exact ⟨_, rfl⟩
  | _ => cases hfield

theorem fieldOrNull_bind_eq_tooLarge_iff {next : Json → Except Failure α} :
    (entry.fieldOrNull name >>= next) = .error (.number .integerTooLarge) ↔
      ∃ value, entry.fieldOrNull name = .ok value ∧
        next value = .error (.number .integerTooLarge) := by
  rw [bind_eq_error_iff]
  apply or_iff_right
  cases entry <;> exact nofun

theorem toFloat_eq_tooLarge_iff {value : Json} :
    value.toFloat = .error (.number .integerTooLarge) ↔
      ∃ count, value = .int count ∧ Decimal.ofInt? count = none := by
  cases value with
  | text raw =>
      unfold toFloat
      dsimp only
      cases Decimal.permissiveStyle.readFloat? raw.toList <;> simp
  | int whole =>
      unfold toFloat
      dsimp only
      cases hwhole : Decimal.ofInt? whole <;> simp [hwhole]
  | bool value => cases value <;> simp [toFloat]
  | _ => simp [toFloat]

/-- Reading a number stops at an integer that is too large, and else goes on with the number. -/
theorem numberAt_bind_eq_tooLarge_iff {next : Float → Except Failure α} :
    (entry.numberAt name >>= next) = .error (.number .integerTooLarge) ↔
      entry.IsTooLargeAt name ∨
        ∃ number, entry.numberAt name = .ok number ∧
          next number = .error (.number .integerTooLarge) := by
  have hnumber : entry.numberAt name = .error (.number .integerTooLarge) ↔
      entry.IsTooLargeAt name := by
    simp only [numberAt, IsTooLargeAt, field_bind_eq_tooLarge_iff, toFloat_eq_tooLarge_iff]
    constructor
    · rintro ⟨_, hfield, count, rfl, hcount⟩
      exact ⟨count, hfield, hcount⟩
    · rintro ⟨count, hfield, hcount⟩
      exact ⟨_, hfield, count, rfl, hcount⟩
  rw [bind_eq_error_iff, hnumber]

end Json

/-! ### Files -/

namespace TextFile

/-- A file that holds a JSON document for a reader with some room: its octets are the document's
characters in UTF-8. -/
def Holds (file : TextFile) (document : Json) (room : Nat := Json.maxRoom) : Prop :=
  ∃ octets characters, file.octets = some octets ∧ Text.Utf8.decode octets = .ok characters ∧
    Json.decode (Text.Utf8.joinLineEnds characters) room = .ok document

/-- A file with a document that a reader would make something else of if it had more room. -/
def IsTooDeep (file : TextFile) (room : Nat) : Prop :=
  ∃ octets characters, file.octets = some octets ∧ Text.Utf8.decode octets = .ok characters ∧
    ∃ more, room ≤ more ∧ Json.decode (Text.Utf8.joinLineEnds characters) more ≠
      Json.decode (Text.Utf8.joinLineEnds characters) room

variable {file : TextFile} {room : Nat} {unreadable : (path cause : String) → ArgumentFault}

theorem readJson_eq_ok_iff {document : Json} :
    file.readJson unreadable room = .ok document ↔ file.Holds document room := by
  unfold readJson Holds
  cases file.octets with
  | none => simp
  | some octets =>
      cases hcharacters : Text.Utf8.decode octets with
      | error fault => simp [hcharacters]
      | ok characters =>
          cases hdocument : Json.decode (Text.Utf8.joinLineEnds characters) room with
          | ok value => simp [hcharacters, hdocument]
          | error fault => cases fault <;> simp [hcharacters, hdocument]

theorem readJson_eq_tooDeep_iff :
    (∃ kind, file.readJson unreadable room = .error (.tooDeep kind)) ↔ file.IsTooDeep room := by
  simp only [readJson, IsTooDeep, ← Json.isTooDeep_decode_iff]
  cases file.octets with
  | none => exact ⟨nofun, nofun⟩
  | some octets =>
      cases hcharacters : Text.Utf8.decode octets with
      | error fault => simp [hcharacters, Failure.tooDeep]
      | ok characters =>
          cases hdocument : Json.decode (Text.Utf8.joinLineEnds characters) room with
          | ok value => simp [hcharacters, hdocument, Json.IsTooDeep]
          | error fault =>
              cases fault with
              | tooDeep kind => simp [hcharacters, hdocument, Json.IsTooDeep]
              | malformed fault left =>
                  simp [hcharacters, hdocument, Json.IsTooDeep, Failure.tooDeep]
              | tooManyDigits count =>
                  simp [hcharacters, hdocument, Json.IsTooDeep, Failure.tooDeep]

theorem meets_readJson (unreadable : (path cause : String) → ArgumentFault) (file : TextFile)
    (room : Nat) :
    Meets (fun _ => True) Failure.IsOfTable (file.readJson unreadable room) := by
  unfold readJson
  cases file.octets with
  | none => exact .item _ (.argument _)
  | some octets =>
      dsimp only
      cases Text.Utf8.decode octets with
      | error fault => exact .undecodable fault
      | ok characters =>
          dsimp only
          cases Json.decode (Text.Utf8.joinLineEnds characters) room with
          | ok value => trivial
          | error fault =>
              cases fault with
              | tooDeep kind => exact .tooDeep kind
              | malformed fault left => exact .item _ (.argument _)
              | tooManyDigits count => exact .item _ (.argument _)

theorem readJson_ne_tooLarge :
    file.readJson unreadable room ≠ .error (.number .integerTooLarge) := by
  unfold readJson
  cases file.octets with
  | none => exact nofun
  | some octets =>
      dsimp only
      cases Text.Utf8.decode octets with
      | error fault => exact nofun
      | ok characters =>
          dsimp only
          cases Json.decode (Text.Utf8.joinLineEnds characters) room with
          | ok value => exact nofun
          | error fault => cases fault <;> exact nofun

/-! ### Entries in their own words -/

section

variable {reword : (cause : String) → ArgumentFault} {outcome : Except Failure α}

theorem inEntry_eq_ok_iff {item : α} : inEntry reword outcome = .ok item ↔ outcome = .ok item := by
  cases outcome with
  | ok other => exact Iff.rfl
  | error failure => cases failure <;> exact ⟨nofun, nofun⟩

theorem inEntry_eq_tooLarge_iff : inEntry reword outcome = .error (.number .integerTooLarge) ↔
    outcome = .error (.number .integerTooLarge) := by
  cases outcome with
  | ok item => exact Iff.rfl
  | error failure =>
      cases failure with
      | shape fault => exact ⟨nofun, nofun⟩
      | argument fault => exact ⟨nofun, nofun⟩
      | _ => exact Iff.rfl

theorem meets_inEntry (hentry : Meets (fun _ => True) Failure.IsOfEntry outcome) :
    Meets (fun _ => True) Failure.IsOfItem (inEntry reword outcome) := by
  cases outcome with
  | ok item => trivial
  | error failure =>
      cases hentry with
      | argument fault => exact .argument _
      | shape fault => exact .argument _
      | tooLarge => exact .tooLarge

end

/-! ### Tables -/

/-- What comes of reading a table from a file with some room.  It has an item for each entry, in
their order, if the file holds a list and each of its entries describes an item.  Any failure is one
that the caller can mend, but for two: an integer that is too large, and that is the first entry's
which describes no item, and a document that is nested too deep for the room there is. -/
structure IsReadAs (file : TextFile) (room : Nat) (describes : Json → α → Prop)
    (overflows : Json → Prop) (outcome : Except Failure (List α)) : Prop where
  items : ∀ items, outcome = .ok items ↔
    ∃ entries, file.Holds (.list entries) room ∧ List.Forall₂ describes entries items
  failures : ∀ failure, outcome = .error failure →
    failure.isClientError = true ∨ failure = .number .integerTooLarge ∨
      ∃ kind, failure = .tooDeep kind
  tooLarge : outcome = .error (.number .integerTooLarge) ↔ ∃ earlier entry later items,
    file.Holds (.list (earlier ++ entry :: later)) room ∧ List.Forall₂ describes earlier items ∧
      overflows entry
  tooDeep : (∃ kind, outcome = .error (.tooDeep kind)) ↔ file.IsTooDeep room

/-- Reads a table entry by entry. -/
def readTable (unreadable : (path cause : String) → ArgumentFault)
    (notAList : (path : String) → ArgumentFault) (readEntry : Json → Except Failure α)
    (file : TextFile) (room : Nat) : Except Failure (List α) := do
  match ← file.readJson unreadable room with
  | .list entries => entries.mapM readEntry
  | _ => .error (.argument (notAList file.path))

section

variable {notAList : (path : String) → ArgumentFault} {readEntry : Json → Except Failure α}
  {describes : Json → α → Prop} {overflows : Json → Prop}

theorem meets_readTable
    (hentry : ∀ entry, Meets (fun _ => True) Failure.IsOfItem (readEntry entry)) :
    Meets (fun _ => True) Failure.IsOfTable
      (file.readTable unreadable notAList readEntry room) := by
  refine (meets_readJson unreadable file room).bind fun document _ => ?_
  cases document with
  | list entries => exact (meets_mapM hentry entries).mono .item
  | _ => exact .item _ (.argument _)

theorem readTable_eq_ok_iff {items : List α} :
    file.readTable unreadable notAList readEntry room = .ok items ↔
      ∃ entries, file.Holds (.list entries) room ∧ entries.mapM readEntry = .ok items := by
  constructor
  · intro hread
    obtain ⟨document, hdocument, hitems⟩ := bind_eq_ok hread
    cases document with
    | list entries => exact ⟨entries, readJson_eq_ok_iff.mp hdocument, hitems⟩
    | _ => cases hitems
  · rintro ⟨entries, hholds, hitems⟩
    rw [readTable, readJson_eq_ok_iff.mpr hholds, ok_bind]
    exact hitems

theorem readTable_eq_tooLarge_iff :
    file.readTable unreadable notAList readEntry room = .error (.number .integerTooLarge) ↔
      ∃ entries, file.Holds (.list entries) room ∧
        entries.mapM readEntry = .error (.number .integerTooLarge) := by
  rw [readTable, bind_eq_error_iff]
  constructor
  · rintro (hfile | ⟨document, hdocument, hfailed⟩)
    · exact absurd hfile readJson_ne_tooLarge
    · cases document with
      | list entries => exact ⟨entries, readJson_eq_ok_iff.mp hdocument, hfailed⟩
      | _ => cases hfailed
  · rintro ⟨entries, hholds, hfailed⟩
    exact .inr ⟨.list entries, readJson_eq_ok_iff.mpr hholds, hfailed⟩

/-- A document is too deep by itself; its entries are not to blame. -/
theorem readTable_eq_tooDeep_iff {kind : Json.Kind}
    (hentry : ∀ entry, Meets (fun _ => True) Failure.IsOfItem (readEntry entry)) :
    file.readTable unreadable notAList readEntry room = .error (.tooDeep kind) ↔
      file.readJson unreadable room = .error (.tooDeep kind) := by
  rw [readTable, bind_eq_error_iff]
  apply or_iff_left
  rintro ⟨document, -, hfailed⟩
  cases document with
  | list entries => cases (meets_mapM hentry entries).of_error hfailed
  | _ => cases hfailed

/-- A table is read as its entries are, each for itself. -/
theorem isReadAs_readTable
    (hitem : ∀ entry item, readEntry entry = .ok item ↔ describes entry item)
    (hentry : ∀ entry, Meets (fun _ => True) Failure.IsOfItem (readEntry entry))
    (hlarge : ∀ entry, readEntry entry = .error (.number .integerTooLarge) ↔ overflows entry) :
    file.IsReadAs room describes overflows (file.readTable unreadable notAList readEntry room) where
  items items := by simp only [readTable_eq_ok_iff, mapM_eq_ok_iff_forall₂ hitem]
  failures failure hfailed :=
    ((meets_readTable hentry).of_error hfailed).isClientError_or
  tooLarge := by
    simp only [readTable_eq_tooLarge_iff, mapM_eq_error_iff, hlarge,
      mapM_eq_ok_iff_forall₂ hitem]
    constructor
    · rintro ⟨_, hholds, earlier, entry, later, items, rfl, hearlier, hentry⟩
      exact ⟨earlier, entry, later, items, hholds, hearlier, hentry⟩
    · rintro ⟨earlier, entry, later, items, hholds, hearlier, hentry⟩
      exact ⟨_, hholds, earlier, entry, later, items, rfl, hearlier, hentry⟩
  tooDeep := by simp only [readTable_eq_tooDeep_iff hentry, readJson_eq_tooDeep_iff]

end

end TextFile

end AirQuality
