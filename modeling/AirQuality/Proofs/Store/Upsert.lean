import AirQuality.Proofs.Store.Plain

/-!
# Saving as upserting

A batch of records is saved as a whole or not at all.  Saved, it leaves one row for each key, and
the last record with a key is what the row says, moments aside.  So two batches one after the other
leave what they leave as one, and a batch that is saved again leaves what it left.
-/

namespace AirQuality.Store

open Outcome
open Time (Moment)

namespace Rows

variable {ρ : Type} [Record ρ] {now now' : Moment}
  {records records' rows rows' after after' : List ρ}

/-- Two batches are saved one after the other. -/
theorem saveAll_append (now : Moment) (first second rows : List ρ) :
    saveAll now (first ++ second) rows = saveAll now first rows >>= saveAll now second := by
  induction first generalizing rows with
  | nil => rfl
  | cons record rest ih =>
      rw [List.cons_append, saveAll, saveAll]
      cases save now record rows with
      | error failure => rfl
      | ok saved => exact ih saved.2

variable [Refreshable ρ]

theorem map_undated_put (row : ρ) (rows : List ρ) :
    (put row rows).map undated = put (undated row) (rows.map undated) := by
  induction rows with
  | nil => rfl
  | cons other rest ih =>
      simp only [put, List.map_cons, Refreshable.key_undated]
      split
      · rfl
      · rw [List.map_cons, ih]

/-- A batch is saved if something is kept of each record, whatever the rows. -/
theorem exists_saveAll_iff (now : Moment) (rows : List ρ) :
    (∃ after, saveAll now records rows = .ok after) ↔
      ∀ record ∈ records, ∃ kept, content record = .ok kept := by
  refine ⟨fun ⟨after, hsave⟩ => ?_, exists_saveAll now rows⟩
  induction records generalizing rows with
  | nil => exact List.forall_mem_nil _
  | cons record rest ih =>
      obtain ⟨row, hsaved, hrest⟩ := saveAll_cons hsave
      exact List.forall_mem_cons.mpr ⟨⟨_, hsaved.content⟩, ih _ ⟨after, hrest⟩ hrest⟩

/-- Whether something is kept of records does not depend on their moments. -/
theorem exists_content_of_undated (hsame : records'.map undated = records.map undated)
    (hkept : ∀ record ∈ records, ∃ kept, content record = .ok kept) :
    ∀ record ∈ records', ∃ kept, content record = .ok kept := by
  intro record' hrecord'
  obtain ⟨record, hrecord, hundated⟩ :=
    List.mem_map.mp (hsame ▸ List.mem_map_of_mem (f := undated) hrecord')
  obtain ⟨kept, hcontent⟩ := hkept record hrecord
  exact ⟨kept, (content_eq_of_undated_eq hundated).symm.trans hcontent⟩

/-- What a batch leaves of rows does not depend on any moments, moments aside. -/
theorem map_undated_saveAll (hsave : saveAll now records rows = .ok after)
    (hsave' : saveAll now' records' rows' = .ok after')
    (hrecords : records'.map undated = records.map undated)
    (hrows : rows'.map undated = rows.map undated) :
    after'.map undated = after.map undated := by
  induction records generalizing records' rows rows' with
  | nil =>
      obtain rfl : records' = [] := List.map_eq_nil_iff.mp hrecords
      obtain rfl : rows = after := Except.ok.inj hsave
      obtain rfl : rows' = after' := Except.ok.inj hsave'
      exact hrows
  | cons record rest ih =>
      obtain ⟨record', rest', rfl, hrecord, hrest⟩ := List.map_eq_cons_iff.mp hrecords
      obtain ⟨row, hsaved, hlater⟩ := saveAll_cons hsave
      obtain ⟨row', hsaved', hlater'⟩ := saveAll_cons hsave'
      have hrow : undated row' = undated row := by
        have hcontent := hsaved'.content
        rw [content_eq_of_undated_eq hrecord, hsaved.content] at hcontent
        exact (Except.ok.inj hcontent).symm
      refine ih hlater hlater' hrest ?_
      rw [map_undated_put, map_undated_put, hrow, hrows]

/-- Rows in the same order, of which no two have the same key, are told by what is found. -/
theorem map_undated_eq_of_find? (hkeys : rows'.map Record.key = rows.map Record.key)
    (hnodup : (rows.map Record.key).Nodup)
    (hfind : ∀ key, (find? key rows').map undated = (find? key rows).map undated) :
    rows'.map undated = rows.map undated := by
  induction rows generalizing rows' with
  | nil => rw [List.map_eq_nil_iff.mp hkeys]
  | cons row rest ih =>
      obtain ⟨row', rest', rfl, hkey, hrest⟩ := List.map_eq_cons_iff.mp hkeys
      obtain ⟨hfresh, hnodup⟩ := List.nodup_cons.mp hnodup
      have hfirst : undated row' = undated row := by
        have hsame := hfind (Record.key row)
        rw [find?_cons, if_pos hkey, find?_cons, if_pos rfl] at hsame
        exact Option.some.inj hsame
      rw [List.map_cons, List.map_cons, hfirst, ih hrest hnodup]
      intro key
      have hsame := hfind key
      rw [find?_cons, find?_cons, hkey] at hsame
      by_cases hother : Record.key row = key
      · rw [← hother, find?_eq_none_iff.mpr hfresh, find?_eq_none_iff.mpr (hrest ▸ hfresh)]
      · rwa [if_neg hother, if_neg hother] at hsame

end Rows

/-! ### Records of the declared types -/

/-- A kind of record whose fields are declared with types. -/
class Typed (ρ : Type) [Record ρ] [Refreshable ρ] where
  IsTyped : ρ → Prop
  /-- A record of the declared types as it is kept: its numbers have one zero, what is not a number
  is nothing, and its time is what the wall clock shows. -/
  settled : ρ → ρ
  undated_eq {record row : ρ} (htyped : IsTyped record)
    (hcontent : Rows.content record = .ok (Rows.undated row)) :
    Rows.undated row = Rows.undated (settled record)

theorem eq_of_keptNumber {value kept : Json} (hvalue : value.IsFloatOrNull)
    (hkept : keptNumber value = .ok kept) : kept = settledNumber value := by
  rw [keptNumber_of_isFloatOrNull hvalue] at hkept
  exact (Except.ok.inj hkept).symm

theorem eq_of_keptText {value kept : Json} (hvalue : value.IsTextOrNull)
    (hkept : keptText value = .ok kept) : kept = value := by
  rw [keptText_of_isTextOrNull hvalue] at hkept
  exact (Except.ok.inj hkept).symm

/-- A station with values of the declared types. -/
structure StationRecord.IsTyped (record : StationRecord) : Prop where
  source : record.source.IsTextOrNull
  stationId : record.stationId.IsTextOrNull
  displayName : record.displayName.IsTextOrNull
  latitude : record.latitude.IsFloatOrNull
  longitude : record.longitude.IsFloatOrNull

instance : Typed StationRecord where
  IsTyped := StationRecord.IsTyped
  settled record := { record with
    latitude := settledNumber record.latitude
    longitude := settledNumber record.longitude }
  undated_eq htyped hcontent := by
    have hkept := StationRecord.isKept_of_content hcontent
    simp only [Refreshable.undated, hkept.key, eq_of_keptText htyped.source hkept.source,
      eq_of_keptText htyped.stationId hkept.stationId,
      eq_of_keptText htyped.displayName hkept.displayName,
      eq_of_keptNumber htyped.latitude hkept.latitude,
      eq_of_keptNumber htyped.longitude hkept.longitude]

/-- A parameter with values of the declared types. -/
structure ParameterRecord.IsTyped (record : ParameterRecord) : Prop where
  source : record.source.IsTextOrNull
  stationId : record.stationId.IsTextOrNull
  parameterId : record.parameterId.IsTextOrNull
  rawName : record.rawName.IsTextOrNull
  displayName : record.displayName.IsTextOrNull
  unit : record.unit.IsTextOrNull
  description : record.description.IsTextOrNull

instance : Typed ParameterRecord where
  IsTyped := ParameterRecord.IsTyped
  settled record := record
  undated_eq htyped hcontent := by
    have hkept := ParameterRecord.isKept_of_content hcontent
    simp only [Refreshable.undated, hkept.key, hkept.canonicalKey,
      eq_of_keptText htyped.source hkept.source,
      eq_of_keptText htyped.stationId hkept.stationId,
      eq_of_keptText htyped.parameterId hkept.parameterId,
      eq_of_keptText htyped.rawName hkept.rawName,
      eq_of_keptText htyped.displayName hkept.displayName,
      eq_of_keptText htyped.unit hkept.unit,
      eq_of_keptText htyped.description hkept.description]

/-- A measurement with values of the declared types. -/
structure MeasurementRecord.IsTyped (record : MeasurementRecord) : Prop where
  source : record.source.IsTextOrNull
  stationId : record.stationId.IsTextOrNull
  parameterKey : record.parameterKey.IsTextOrNull
  value : record.value.IsFloatOrNull

instance : Typed MeasurementRecord where
  IsTyped := MeasurementRecord.IsTyped
  settled record := { record with
    value := settledNumber record.value
    timestamp := unmarked record.timestamp }
  undated_eq htyped hcontent := by
    have hkept := MeasurementRecord.isKept_of_content hcontent
    simp only [Refreshable.undated, hkept.key, hkept.timestamp,
      eq_of_keptText htyped.source hkept.source,
      eq_of_keptText htyped.stationId hkept.stationId,
      eq_of_keptText htyped.parameterKey hkept.parameterKey,
      eq_of_keptNumber htyped.value hkept.value]

/-! ### Saving in the store -/

section

variable {ρ : Type} [Shelf ρ]

/-- A record or a batch of records to be saved, and when. -/
inductive Step (ρ : Type) where
  | one (now : Moment) (record : ρ)
  | batch (now : Moment) (records : List ρ)

/-- The store after a step, whether it has failed or not. -/
def Step.after : Step ρ → Store → Store
  | .one now record, store => (save now record store).2
  | .batch now records, store => (saveAll now records store).2

/-- The store after some steps. -/
def afterAll (steps : List (Step ρ)) (store : Store) : Store :=
  steps.foldl (fun store step => step.after store) store

/-- No two rows of a kind have the same key. -/
def HasDistinctKeys (ρ : Type) [Shelf ρ] (store : Store) : Prop :=
  ((Shelf.rows store : List ρ).map Record.key).Nodup

/-- A batch is saved, and is told to be as long as it is. -/
def Saves (now : Moment) (records : List ρ) (store after : Store) : Prop :=
  saveAll now records store = (.ok records.length, after)

/-- The rows of a kind without their moments. -/
def undatedRows (ρ : Type) [Shelf ρ] [Refreshable ρ] (store : Store) : List ρ :=
  (Shelf.rows store).map Rows.undated

variable {now : Moment} {records : List ρ} {store after : Store}

/-- A batch is saved with its rows, or fails and changes nothing. -/
theorem saveAll_cases (now : Moment) (records : List ρ) (store : Store) :
    (∃ rows, Rows.saveAll now records (Shelf.rows store) = .ok rows ∧
        Saves now records store (Shelf.setRows rows store)) ∨
      ∃ failure, Rows.saveAll now records (Shelf.rows store) = .error failure ∧
        saveAll now records store = (.error failure, store) := by
  cases hsave : Rows.saveAll now records (Shelf.rows store) with
  | ok rows =>
      refine .inl ⟨rows, rfl, ?_⟩
      rw [Saves, saveAll, hsave]
  | error failure =>
      refine .inr ⟨failure, rfl, ?_⟩
      rw [saveAll, hsave]

/-- A record leaves what it leaves as a batch. -/
theorem save_snd_eq (now : Moment) (record : ρ) (store : Store) :
    (save now record store).2 = (saveAll now [record] store).2 := by
  unfold save saveAll Rows.saveAll
  cases Rows.save now record (Shelf.rows store) with
  | error failure => rfl
  | ok saved => rfl

variable [LawfulShelf ρ]

theorem Saves.rows_eq (hsaves : Saves now records store after) :
    Rows.saveAll now records (Shelf.rows store) = .ok (Shelf.rows after) := by
  rcases saveAll_cases now records store with ⟨rows, hrows, hdone⟩ | ⟨failure, -, hfailed⟩
  · obtain ⟨-, rfl⟩ := Prod.mk.inj (hsaves.symm.trans hdone)
    rw [hrows, LawfulShelf.rows_setRows]
  · obtain ⟨hcontra, -⟩ := Prod.mk.inj (hsaves.symm.trans hfailed)
    cases hcontra

theorem exists_saves {rows : List ρ}
    (hrows : Rows.saveAll now records (Shelf.rows store) = .ok rows) :
    ∃ after, Saves now records store after ∧ Shelf.rows after = rows := by
  rcases saveAll_cases now records store with ⟨found, hfound, hdone⟩ | ⟨failure, hfailed, -⟩
  · obtain rfl := Except.ok.inj (hrows.symm.trans hfound)
    exact ⟨_, hdone, LawfulShelf.rows_setRows rows store⟩
  · cases hrows.symm.trans hfailed

variable [Refreshable ρ]

theorem hasDistinctKeys_saveAll (hdistinct : HasDistinctKeys ρ store) (now : Moment)
    (records : List ρ) : HasDistinctKeys ρ (saveAll now records store).2 := by
  rcases saveAll_cases now records store with ⟨rows, hrows, hdone⟩ | ⟨failure, -, hfailed⟩
  · rw [hdone, HasDistinctKeys, LawfulShelf.rows_setRows]
    exact (Rows.overridden_of_saveAll hrows).nodup hdistinct
  · rwa [hfailed]

theorem hasDistinctKeys_after (hdistinct : HasDistinctKeys ρ store) (step : Step ρ) :
    HasDistinctKeys ρ (step.after store) := by
  cases step with
  | one now record =>
      rw [Step.after, save_snd_eq]
      exact hasDistinctKeys_saveAll hdistinct now [record]
  | batch now records => exact hasDistinctKeys_saveAll hdistinct now records

theorem hasDistinctKeys_afterAll (hdistinct : HasDistinctKeys ρ store) (steps : List (Step ρ)) :
    HasDistinctKeys ρ (afterAll steps store) := by
  induction steps generalizing store with
  | nil => exact hdistinct
  | cons step rest ih => exact ih (hasDistinctKeys_after hdistinct step)

/-- What it means for a kind of record that saving is upserting. -/
structure Upserts (ρ : Type) [Shelf ρ] [Refreshable ρ] [Typed ρ] : Prop where
  /-- Whatever is saved, there is one row for each key. -/
  distinct {store : Store} (hdistinct : HasDistinctKeys ρ store) (steps : List (Step ρ)) :
    HasDistinctKeys ρ (afterAll steps store)
  /-- A batch is saved and told to be as long as it is, or nothing changes. -/
  whole (now : Moment) (records : List ρ) (store : Store) :
    (∃ after, Saves now records store after) ∨
      ∃ failure, saveAll now records store = (.error failure, store)
  /-- The row with a key is what is kept of the last record with that key, or as it was. -/
  last {now : Moment} {records : List ρ} {store after : Store}
    (hsaves : Saves now records store after) (key : String) :
    match Rows.find? key records.reverse with
    | some record => ∃ row, Rows.find? key (Shelf.rows after) = some row ∧
        Rows.content record = .ok (Rows.undated row) ∧
        (Typed.IsTyped record → Rows.undated row = Rows.undated (Typed.settled record))
    | none => Rows.find? key (Shelf.rows after : List ρ) = Rows.find? key (Shelf.rows store)
  /-- Two batches that are saved one after the other leave what they leave as one. -/
  joined {now now' : Moment} {first second : List ρ} {store between after : Store}
    (hfirst : Saves now first store between) (hsecond : Saves now' second between after)
    (later : Moment) : ∃ once, Saves later (first ++ second) store once ∧
      undatedRows ρ once = undatedRows ρ after
  /-- A batch that is saved is saved as two, too. -/
  parted {now : Moment} {first second : List ρ} {store after : Store}
    (hsaves : Saves now (first ++ second) store after) :
    ∃ between, Saves now first store between ∧ ∃ twice, Saves now second between twice ∧
      (Shelf.rows twice : List ρ) = Shelf.rows after
  /-- A batch that is saved again leaves what it left. -/
  again {now : Moment} {records repeated : List ρ} {store after : Store}
    (hdistinct : HasDistinctKeys ρ store) (hsaves : Saves now records store after)
    (hsame : repeated.map Rows.undated = records.map Rows.undated) (later : Moment) :
    ∃ twice, Saves later repeated after twice ∧ undatedRows ρ twice = undatedRows ρ after

theorem upserts [Typed ρ] : Upserts ρ where
  distinct hdistinct steps := hasDistinctKeys_afterAll hdistinct steps
  whole now records store := by
    rcases saveAll_cases now records store with ⟨rows, -, hdone⟩ | ⟨failure, -, hfailed⟩
    · exact .inl ⟨_, hdone⟩
    · exact .inr ⟨failure, hfailed⟩
  last {now records store after} hsaves key := by
    have hafter := Rows.overridden_of_saveAll hsaves.rows_eq
    split
    case h_1 record hlast =>
      obtain ⟨row, hrow, hcontent⟩ := hafter.saved hlast
      exact ⟨row, hrow, hcontent, fun htyped => Typed.undated_eq htyped hcontent⟩
    case h_2 hnone =>
      refine hafter.kept ?_
      simpa using Rows.find?_eq_none_iff.mp hnone
  joined {now now' first second store between after} hfirst hsecond later := by
    have hkept : ∀ record ∈ first ++ second, ∃ kept, Rows.content record = .ok kept :=
      List.forall_mem_append.mpr
        ⟨(Rows.exists_saveAll_iff now _).mp ⟨_, hfirst.rows_eq⟩,
          (Rows.exists_saveAll_iff now' _).mp ⟨_, hsecond.rows_eq⟩⟩
    obtain ⟨rows, hrows⟩ := Rows.exists_saveAll later (Shelf.rows store) hkept
    obtain ⟨once, honce, rfl⟩ := exists_saves hrows
    refine ⟨once, honce, ?_⟩
    -- The one batch has rows halfway, too, which differ from those between the two in moments only.
    rw [Rows.saveAll_append] at hrows
    obtain ⟨middle, hmiddle, hlater⟩ := bind_eq_ok hrows
    exact Rows.map_undated_saveAll hsecond.rows_eq hlater rfl
      (Rows.map_undated_saveAll hfirst.rows_eq hmiddle rfl rfl)
  parted {now first second store after} hsaves := by
    have hrows := hsaves.rows_eq
    rw [Rows.saveAll_append] at hrows
    obtain ⟨middle, hmiddle, hlater⟩ := bind_eq_ok hrows
    obtain ⟨between, hbetween, rfl⟩ := exists_saves hmiddle
    exact ⟨between, hbetween, exists_saves hlater⟩
  again {now records repeated store after} hdistinct hsaves hsame later := by
    have hfirst := Rows.overridden_of_saveAll hsaves.rows_eq
    have hkept := (Rows.exists_saveAll_iff now _).mp ⟨_, hsaves.rows_eq⟩
    obtain ⟨rows, hrows⟩ := Rows.exists_saveAll later (Shelf.rows after)
      (Rows.exists_content_of_undated hsame hkept)
    obtain ⟨twice, htwice, rfl⟩ := exists_saves hrows
    obtain ⟨hkeys, hfind⟩ := hfirst.repeated (Rows.overridden_of_saveAll hrows) hsame
    exact ⟨twice, htwice,
      Rows.map_undated_eq_of_find? hkeys (hfirst.nodup hdistinct) hfind⟩

end

/-! ### The three kinds -/

/-- A measurement whose value stands for something that is not a number. -/
def MeasurementRecord.IsNoNumber (record : MeasurementRecord) : Prop :=
  ∃ number, record.value.toFloat = .ok number ∧ Decimal.isNaN number = true

/-- A row without one of the values that it has to have is refused. -/
theorem require_of_null_mem {values : List Json} (hnull : .null ∈ values) :
    require values = .error (.table .rejectedRow) := by
  refine if_neg fun hall => ?_
  have hgiven := List.all_eq_true.mp hall _ hnull
  exact absurd rfl (of_decide_eq_true hgiven)

theorem MeasurementRecord.IsNoNumber.keptNumber_eq {record : MeasurementRecord}
    (hnone : record.IsNoNumber) : keptNumber record.value = .ok .null := by
  obtain ⟨number, hnumber, hnan⟩ := hnone
  cases hvalue : record.value with
  | null => rfl
  | _ =>
      rw [hvalue] at hnumber
      simp only [keptNumber, hnumber, hnan, if_true]

theorem MeasurementRecord.IsNoNumber.content_ne_ok {record : MeasurementRecord}
    (hnone : record.IsNoNumber) (kept : MeasurementRecord) : Rows.content record ≠ .ok kept := by
  intro hcontent
  obtain ⟨row, hkept, -⟩ := Rows.kept_of_content hcontent
  obtain ⟨value, hvalue, hkept⟩ := bind_eq_ok hkept
  obtain ⟨source, -, hkept⟩ := bind_eq_ok hkept
  obtain ⟨stationId, -, hkept⟩ := bind_eq_ok hkept
  obtain ⟨parameterKey, -, hkept⟩ := bind_eq_ok hkept
  obtain ⟨_, hrequire, -⟩ := bind_eq_ok hkept
  obtain rfl := Except.ok.inj (hnone.keptNumber_eq.symm.trans hvalue)
  rw [require_of_null_mem (by simp)] at hrequire
  cases hrequire

/-- Saving is upserting for each kind of record.  A batch of measurements, one of whose values is no
number, is refused as a whole, wherever that one stands. -/
theorem saveAll_upserts :
    Upserts StationRecord ∧ Upserts ParameterRecord ∧ Upserts MeasurementRecord ∧
      ∀ (now : Moment) (records : List MeasurementRecord) (store : Store),
        (∃ record ∈ records, record.IsNoNumber) →
          ∃ failure, saveAll now records store = (.error failure, store) := by
  refine ⟨upserts, upserts, upserts, fun now records store ⟨record, hrecord, hnone⟩ => ?_⟩
  rcases saveAll_cases now records store with ⟨rows, hrows, -⟩ | ⟨failure, -, hfailed⟩
  · obtain ⟨kept, hcontent⟩ := (Rows.exists_saveAll_iff now _).mp ⟨rows, hrows⟩ record hrecord
    exact absurd hcontent (hnone.content_ne_ok kept)
  · exact ⟨failure, hfailed⟩

/-- A measurement with a key and a value. -/
def keyed (key : String) (value : Float) : MeasurementRecord :=
  ⟨key, .text "GIOS", .text "s1", .text "PM10", .float value, juneNoon, juneNoon⟩

theorem saveAll_upserts_keyed :
    (∃ after row, Saves juneNoon [keyed "a" 1, keyed "b" 2, keyed "a" 3] .empty after ∧
      Rows.find? "a" (Shelf.rows after) = some row ∧
      Rows.undated row = Rows.undated (Typed.settled (keyed "a" 3))) ∧
    ∃ failure, saveAll juneNoon [keyed "a" 1, keyed "b" Decimal.notANumber, keyed "c" 3] .empty =
      (.error failure, .empty) := by
  obtain ⟨-, -, hupserts, hrefused⟩ := saveAll_upserts
  constructor
  · have hsaves : Saves juneNoon [keyed "a" 1, keyed "b" 2, keyed "a" 3] .empty
        (saveAll juneNoon [keyed "a" 1, keyed "b" 2, keyed "a" 3] .empty).2 := rfl
    obtain ⟨row, hrow, -, hsame⟩ := hupserts.last hsaves "a"
    have htyped : (keyed "a" 3).IsTyped := ⟨trivial, trivial, trivial, .inr ⟨3, rfl⟩⟩
    exact ⟨_, row, hsaves, hrow, hsame htyped⟩
  · exact hrefused juneNoon _ .empty
      ⟨_, .tail _ (.head _), Decimal.notANumber, rfl, by decide +kernel⟩

/-- A station whose latitude is no number. -/
def adrift : StationRecord :=
  .ofStation juneNoon ⟨"s1", .null, .float Decimal.notANumber, .float 21, "GIOS"⟩

/-- What is no number is nothing in the row. -/
theorem saveAll_upserts_notANumber :
    ∃ after row, Saves juneNoon [adrift] .empty after ∧
      Rows.find? adrift.key (Shelf.rows after) = some row ∧
      row.latitude = .null ∧ adrift.latitude = .float Decimal.notANumber ∧
      Rows.undated row ≠ Rows.undated adrift := by
  refine ⟨_, _, rfl, rfl, rfl, rfl, ?_⟩
  intro hsame
  cases congrArg StationRecord.latitude hsame

end AirQuality.Store
