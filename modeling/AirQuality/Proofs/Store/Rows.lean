import AirQuality.Proofs.Outcome
import AirQuality.Store
import Mathlib.Data.List.Nodup

/-!
# What saving does to the rows

Saving a record touches the row with its key and no other, and a row is found under its key
afterwards.  Of several records with one key the last is the one that stays.  What a row says apart
from its moments is what its record says, whatever stood in its place before.
-/

namespace AirQuality.Store

open Outcome (bind_eq_ok)
open Time (Moment)

/-- A kind of record that keeps its key and does not take over what the row before it said. -/
class Refreshable (ρ : Type) [Record ρ] where
  /-- A record without the moments at which it was made and seen again. -/
  undated : ρ → ρ
  key_undated (record : ρ) : Record.key (undated record) = Record.key record
  undated_replacing (now : Moment) (old new : ρ) :
    undated (Record.replacing now old new) = undated new
  map_undated_kept (record : ρ) :
    undated <$> Record.kept record = undated <$> Record.kept (undated record)
  key_kept {record row : ρ} (hkept : Record.kept record = .ok row) :
    Record.key row = Record.key record

namespace Rows

variable {ρ : Type} [Record ρ]

/-! ### Finding a row -/

variable {key : String} {row other : ρ} {rows after : List ρ}

theorem key_of_find? (hfind : find? key rows = some row) : Record.key row = key := by
  simpa using List.find?_some hfind

theorem mem_of_find? (hfind : find? key rows = some row) : row ∈ rows :=
  List.mem_of_find?_eq_some hfind

theorem find?_eq_none_iff : find? key rows = none ↔ key ∉ rows.map Record.key := by
  simp [find?]

theorem exists_find? (hkey : key ∈ rows.map Record.key) : ∃ row, find? key rows = some row :=
  Option.ne_none_iff_exists'.mp fun hnone => find?_eq_none_iff.mp hnone hkey

theorem find?_cons (key : String) (row : ρ) (rows : List ρ) :
    find? key (row :: rows) = if Record.key row = key then some row else find? key rows := by
  by_cases hkey : Record.key row = key
  · rw [if_pos hkey]
    exact List.find?_cons_of_pos (by simpa using hkey)
  · rw [if_neg hkey]
    exact List.find?_cons_of_neg (by simpa using hkey)

/-- Of two lists the first counts. -/
theorem find?_append (key : String) (rows others : List ρ) :
    find? key (rows ++ others) = (find? key rows).or (find? key others) :=
  List.find?_append

/-- A row that a condition keeps is found among those that it keeps. -/
theorem find?_filter {keep : ρ → Bool} (hfind : find? key rows = some row)
    (hkeep : keep row = true) : find? key (rows.filter keep) = some row := by
  induction rows with
  | nil => cases hfind
  | cons first rest ih =>
      rw [find?_cons] at hfind
      by_cases hkey : Record.key first = key
      · rw [if_pos hkey] at hfind
        obtain rfl := Option.some.inj hfind
        rw [List.filter_cons_of_pos hkeep, find?_cons, if_pos hkey]
      · rw [if_neg hkey] at hfind
        cases hfirst : keep first with
        | true => rw [List.filter_cons_of_pos hfirst, find?_cons, if_neg hkey, ih hfind]
        | false => rw [List.filter_cons_of_neg (by simp [hfirst]), ih hfind]

/-! ### Putting a row in its place -/

theorem find?_put (key : String) (row : ρ) (rows : List ρ) :
    find? key (put row rows) = if Record.key row = key then some row else find? key rows := by
  induction rows with
  | nil => exact find?_cons key row []
  | cons other rest ih =>
      unfold put
      by_cases hother : Record.key other = Record.key row
      · rw [if_pos hother, find?_cons, find?_cons, hother]
        by_cases hkey : Record.key row = key
        · rw [if_pos hkey, if_pos hkey]
        · rw [if_neg hkey, if_neg hkey, if_neg hkey]
      · rw [if_neg hother, find?_cons, find?_cons, ih]
        by_cases hkey : Record.key row = key
        · have hdifferent : Record.key other ≠ key := fun hsame => hother (hsame.trans hkey.symm)
          rw [if_pos hkey, if_pos hkey, if_neg hdifferent]
        · rw [if_neg hkey, if_neg hkey]

/-- A row with a new key comes last, any other keeps the keys as they are. -/
theorem keys_put (row : ρ) (rows : List ρ) :
    (put row rows).map Record.key =
      rows.map Record.key ++
        if Record.key row ∈ rows.map Record.key then [] else [Record.key row] := by
  induction rows with
  | nil => rfl
  | cons other rest ih =>
      unfold put
      by_cases hother : Record.key other = Record.key row
      · simp [hother]
      · have hkey : Record.key row ∈ Record.key other :: rest.map Record.key ↔
            Record.key row ∈ rest.map Record.key := by simp [Ne.symm hother]
        simp only [if_neg hother, hkey, List.map_cons, ih, List.cons_append]

theorem mem_put (hmem : other ∈ put row rows) : other = row ∨ other ∈ rows := by
  induction rows with
  | nil => exact .inl (List.mem_singleton.mp hmem)
  | cons first rest ih =>
      unfold put at hmem
      split at hmem
      · exact (List.mem_cons.mp hmem).imp id (List.mem_cons_of_mem first)
      · cases List.mem_cons.mp hmem with
        | inl hfirst => exact .inr (hfirst ▸ List.mem_cons_self)
        | inr hrest => exact (ih hrest).imp id (List.mem_cons_of_mem first)

/-! ### Saving a record -/

variable [Refreshable ρ] {now : Moment} {record : ρ}

export Refreshable (undated)

theorem key_replacing (now : Moment) (old new : ρ) :
    Record.key (Record.replacing now old new) = Record.key new := by
  rw [← Refreshable.key_undated, Refreshable.undated_replacing, Refreshable.key_undated]

@[simp]
theorem key_merged (now : Moment) (record : ρ) (rows : List ρ) :
    Record.key (merged now record rows) = Record.key record := by
  unfold merged
  split
  · exact key_replacing now _ record
  · rfl

@[simp]
theorem undated_merged (now : Moment) (record : ρ) (rows : List ρ) :
    undated (merged now record rows) = undated record := by
  unfold merged
  split
  · exact Refreshable.undated_replacing now _ record
  · rfl

/-- What is kept of a record apart from its moments. -/
def content (record : ρ) : Except Failure ρ := undated <$> Record.kept record

theorem content_eq_of_undated_eq (hsame : undated record = undated other) :
    content record = content other := by
  unfold content
  rw [Refreshable.map_undated_kept record, hsame, ← Refreshable.map_undated_kept other]

theorem content_merged (now : Moment) (record : ρ) (rows : List ρ) :
    content (merged now record rows) = content record :=
  content_eq_of_undated_eq (undated_merged now record rows)

theorem kept_of_content (hcontent : content record = .ok other) :
    ∃ row, Record.kept record = .ok row ∧ undated row = other := by
  unfold content at hcontent
  cases hkept : Record.kept record with
  | error failure =>
      rw [hkept] at hcontent
      cases hcontent
  | ok row =>
      rw [hkept] at hcontent
      exact ⟨row, rfl, Except.ok.inj hcontent⟩

theorem content_of_kept (hkept : Record.kept record = .ok row) :
    content record = .ok (undated row) := by
  rw [content, hkept]
  rfl

/-- What saving a record comes to. -/
structure Saved (record : ρ) (rows : List ρ) (row : ρ) (after : List ρ) : Prop where
  key : Record.key row = Record.key record
  content : content record = .ok (undated row)
  after : after = put row rows

theorem saved_of_save (hsave : save now record rows = .ok (row, after)) :
    Saved record rows row after := by
  obtain ⟨kept, hkept, hdone⟩ := bind_eq_ok hsave
  cases hdone
  refine ⟨(Refreshable.key_kept hkept).trans (key_merged now record rows), ?_, rfl⟩
  rw [← content_merged now record rows]
  exact content_of_kept hkept

theorem exists_save (now : Moment) (rows : List ρ) (hcontent : content record = .ok other) :
    ∃ row, save now record rows = .ok (row, put row rows) := by
  rw [← content_merged now record rows] at hcontent
  obtain ⟨row, hkept, -⟩ := kept_of_content hcontent
  refine ⟨row, ?_⟩
  rw [save, hkept]
  rfl

/-! ### Saving several records -/

variable {records : List ρ}

theorem saveAll_cons (hsave : saveAll now (record :: records) rows = .ok after) :
    ∃ row, Saved record rows row (put row rows) ∧
      saveAll now records (put row rows) = .ok after := by
  obtain ⟨⟨row, others⟩, hfirst, hrest⟩ := bind_eq_ok hsave
  have hsaved := saved_of_save hfirst
  obtain rfl := hsaved.after
  exact ⟨row, hsaved, hrest⟩

/-- The rows are those from before with the records in the place of those with their keys; of
several records with one key the last counts. -/
structure Overridden (records rows after : List ρ) : Prop where
  saved {key : String} {record : ρ} (hlast : find? key records.reverse = some record) :
    ∃ row, find? key after = some row ∧ content record = .ok (undated row)
  kept {key : String} (hnone : key ∉ records.map Record.key) : find? key after = find? key rows
  mem {row : ρ} (hmem : row ∈ after) : row ∈ rows ∨
    ∃ record ∈ records, Record.key row = Record.key record ∧ content record = .ok (undated row)
  keys : ∃ fresh, after.map Record.key = rows.map Record.key ++ fresh ∧
    ∀ key ∈ fresh, key ∈ records.map Record.key ∧ key ∉ rows.map Record.key
  nodup (hnodup : (rows.map Record.key).Nodup) : (after.map Record.key).Nodup

theorem overridden_nil (rows : List ρ) : Overridden [] rows rows where
  saved hlast := nomatch hlast
  kept _ := rfl
  mem := .inl
  keys := ⟨[], (List.append_nil _).symm, fun _ hmem => nomatch hmem⟩
  nodup hnodup := hnodup

theorem Overridden.of_saved (hsaved : Saved record rows row (put row rows))
    (hrest : Overridden records (put row rows) after) :
    Overridden (record :: records) rows after where
  saved {key last} hlast := by
    rw [List.reverse_cons, find?_append] at hlast
    cases hlater : find? key records.reverse with
    | some later =>
        obtain rfl : later = last := by simpa [hlater] using hlast
        exact hrest.saved hlater
    | none =>
        have hfirst : find? key [record] = some last := by simpa [hlater] using hlast
        obtain rfl : last = record := List.mem_singleton.mp (mem_of_find? hfirst)
        have hkey : Record.key row = key := hsaved.key.trans (key_of_find? hfirst)
        refine ⟨row, ?_, hsaved.content⟩
        have hothers : key ∉ records.map Record.key := by
          simpa using find?_eq_none_iff.mp hlater
        rw [hrest.kept hothers, find?_put, if_pos hkey]
  kept {key} hnone := by
    simp only [List.map_cons, List.mem_cons, not_or] at hnone
    rw [hrest.kept hnone.2, find?_put, if_neg]
    rw [hsaved.key]
    exact Ne.symm hnone.1
  mem {kept} hmem := by
    cases hrest.mem hmem with
    | inr hrecord =>
        obtain ⟨later, hlater, hkept⟩ := hrecord
        exact .inr ⟨later, List.mem_cons_of_mem record hlater, hkept⟩
    | inl hput =>
        cases mem_put hput with
        | inr hold => exact .inl hold
        | inl hnew =>
            obtain rfl := hnew
            exact .inr ⟨record, List.mem_cons_self, hsaved.key, hsaved.content⟩
  keys := by
    obtain ⟨fresh, hkeys, hfresh⟩ := hrest.keys
    rw [keys_put] at hkeys
    refine ⟨_ ++ fresh, hkeys.trans (List.append_assoc _ _ _), fun key hkey => ?_⟩
    cases List.mem_append.mp hkey with
    | inl hnew =>
        split at hnew
        · cases hnew
        · obtain rfl := List.mem_singleton.mp hnew
          exact ⟨by simp [hsaved.key], ‹_›⟩
    | inr hlater =>
        obtain ⟨hrecord, hold⟩ := hfresh key hlater
        rw [keys_put, List.mem_append, not_or] at hold
        exact ⟨List.mem_cons_of_mem _ hrecord, hold.1⟩
  nodup hnodup := by
    apply hrest.nodup
    rw [keys_put]
    split
    · rwa [List.append_nil]
    · exact List.nodup_append.mpr ⟨hnodup, List.nodup_singleton _, by
        rintro key hkey _ hnew rfl
        obtain rfl := List.mem_singleton.mp hnew
        contradiction⟩

theorem overridden_of_saveAll (hsave : saveAll now records rows = .ok after) :
    Overridden records rows after := by
  induction records generalizing rows with
  | nil =>
      obtain rfl : rows = after := Except.ok.inj hsave
      exact overridden_nil rows
  | cons record rest ih =>
      obtain ⟨row, hsaved, hrest⟩ := saveAll_cons hsave
      exact Overridden.of_saved hsaved (ih hrest)

theorem Overridden.key_mem (hafter : Overridden records rows after)
    (hkey : key ∈ rows.map Record.key) : key ∈ after.map Record.key := by
  obtain ⟨fresh, hkeys, -⟩ := hafter.keys
  rw [hkeys]
  exact List.mem_append_left fresh hkey

/-- What is saved has a row. -/
theorem Overridden.key_mem_of_saved (hafter : Overridden records rows after)
    (hkey : key ∈ records.map Record.key) : key ∈ after.map Record.key := by
  rw [← List.mem_reverse, ← List.map_reverse] at hkey
  obtain ⟨record, hlast⟩ := exists_find? hkey
  obtain ⟨row, hrow, -⟩ := hafter.saved hlast
  rw [← key_of_find? hrow]
  exact List.mem_map_of_mem (mem_of_find? hrow)

/-- Records are saved if each of them is kept. -/
theorem exists_saveAll (now : Moment) (rows : List ρ)
    (hkept : ∀ record ∈ records, ∃ kept, content record = .ok kept) :
    ∃ after, saveAll now records rows = .ok after := by
  induction records generalizing rows with
  | nil => exact ⟨rows, rfl⟩
  | cons record rest ih =>
      obtain ⟨kept, hcontent⟩ := hkept record List.mem_cons_self
      obtain ⟨row, hsave⟩ := exists_save now rows hcontent
      obtain ⟨after, hrest⟩ :=
        ih (put row rows) fun later hlater => hkept later (List.mem_cons_of_mem record hlater)
      refine ⟨after, ?_⟩
      rw [saveAll, hsave]
      exact hrest

/-! ### Saving the same again -/

variable {records' again : List ρ}

theorem map_undated_find? (key : String) (rows : List ρ) :
    (find? key rows).map undated = find? key (rows.map undated) := by
  induction rows with
  | nil => rfl
  | cons row rest ih =>
      rw [List.map_cons, find?_cons, find?_cons, Refreshable.key_undated, ← ih]
      split
      · rfl
      · rfl

/-- Records that differ in their moments only, saved after the others, change nothing else. -/
theorem Overridden.repeated (hfirst : Overridden records rows after)
    (hsecond : Overridden records' after again)
    (hsame : records'.map undated = records.map undated) :
    again.map Record.key = after.map Record.key ∧
      ∀ key, (find? key again).map undated = (find? key after).map undated := by
  have hkeys : records'.map Record.key = records.map Record.key := by
    have hmap (list : List ρ) : list.map Record.key = (list.map undated).map Record.key := by
      simp [Function.comp_def, Refreshable.key_undated]
    rw [hmap records', hsame, ← hmap records]
  have hlasts (key : String) : (find? key records'.reverse).map undated =
      (find? key records.reverse).map undated := by
    rw [map_undated_find?, map_undated_find?, List.map_reverse, List.map_reverse, hsame]
  constructor
  · obtain ⟨fresh, hafter, hfresh⟩ := hsecond.keys
    -- Every key that is saved again has been saved already.
    have hnone : fresh = [] := by
      apply List.eq_nil_iff_forall_not_mem.mpr
      intro key hkey
      obtain ⟨hrecord, hnew⟩ := hfresh key hkey
      rw [hkeys] at hrecord
      exact hnew (hfirst.key_mem_of_saved hrecord)
    rw [hafter, hnone, List.append_nil]
  · intro key
    have hlast := hlasts key
    cases hrecord : find? key records.reverse with
    | none =>
        have hnone : key ∉ records'.map Record.key := by
          rw [hkeys]
          simpa using find?_eq_none_iff.mp hrecord
        rw [hsecond.kept hnone]
    | some record =>
        rw [hrecord, Option.map_some, Option.map_eq_some_iff] at hlast
        obtain ⟨record', hrecord', hundated⟩ := hlast
        obtain ⟨row, hrow, hcontent⟩ := hfirst.saved hrecord
        obtain ⟨row', hrow', hcontent'⟩ := hsecond.saved hrecord'
        have hrows : undated row' = undated row := by
          rw [content_eq_of_undated_eq hundated, hcontent] at hcontent'
          exact (Except.ok.inj hcontent').symm
        rw [hrow, hrow', Option.map_some, Option.map_some, hrows]

end Rows

/-! ### Shelves -/

/-- A kind of record on its own shelf. -/
class LawfulShelf (ρ : Type) [Shelf ρ] : Prop where
  rows_setRows (rows : List ρ) (store : Store) : Shelf.rows (Shelf.setRows rows store) = rows

instance : LawfulShelf StationRecord := ⟨fun _ _ => rfl⟩

instance : LawfulShelf ParameterRecord := ⟨fun _ _ => rfl⟩

instance : LawfulShelf MeasurementRecord := ⟨fun _ _ => rfl⟩

variable {ρ : Type} [Shelf ρ] [LawfulShelf ρ] [Refreshable ρ] {record : ρ}

/-- Saving a record puts a row with its key in its place, or does nothing. -/
theorem rows_save (now : Moment) (record : ρ) (store : Store) :
    (∃ row, Record.key row = Record.key record ∧
      (Shelf.rows (save now record store).2 : List ρ) = Rows.put row (Shelf.rows store)) ∨
      (save now record store).2 = store := by
  cases hsave : Rows.save now record (Shelf.rows store) with
  | error failure =>
      right
      rw [save, hsave]
  | ok saved =>
      left
      obtain ⟨row, after⟩ := saved
      have hsaved := Rows.saved_of_save hsave
      refine ⟨row, hsaved.key, ?_⟩
      rw [save, hsave]
      exact (LawfulShelf.rows_setRows after store).trans hsaved.after

end AirQuality.Store
