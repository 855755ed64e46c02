import AirQuality.Proofs.Reading.Fault
import AirQuality.Proofs.Reading.Newest

/-!
# Readings one by one

What the columns of some records are as a whole comes down to a few facts: whether the timestamps
make up a column of numbers, whether one of them is fine, and whether the values are all whole.
Given these, each record is read on its own, and the selection is made of the readings of its
records.
-/

namespace AirQuality

open Outcome
open Time (Moment)

namespace Column

/-! ### Timestamps -/

/-- The stamp of a cell, by its own text or, in a column of numbers, by that of its integer part. -/
def stampIn (isNumber : Bool) (cell : Json) : Option Time.Stamp :=
  if isNumber then (stampText? .number (.float (realOf cell))).bind Time.Stamp.ofChars?
  else (stampText? .mixed cell).bind Time.Stamp.ofChars?

/-- In columns of most kinds a cell stands for its own text. -/
theorem stampText?_eq_mixed {kind : Kind} (hnumber : kind ≠ .number) (hflag : kind ≠ .flag)
    (cell : Json) : stampText? kind cell = stampText? .mixed cell := by
  cases kind with
  | number => exact absurd rfl hnumber
  | flag => exact absurd rfl hflag
  | _ => cases cell <;> rfl

/-- Whether the cells make up a column of numbers. -/
def areNumbers (cells : List Json) : Bool := kindOf cells = .number

/-- The stamps of a column are those of its cells one by one. -/
theorem instants_ofCells (cells : List Json) :
    instants (ofCells cells).1 (ofCells cells).2 =
      (if kindOf cells = .flag then .naiveInstants
        else .instants (instantsOfStamps (cells.map (stampIn (areNumbers cells)))).1,
        (instantsOfStamps (cells.map (stampIn (areNumbers cells)))).2) := by
  have hstamps : (settle (kindOf cells) cells).map (fun cell =>
      (stampText? (kindOf cells) cell).bind Time.Stamp.ofChars?) =
        cells.map (stampIn (areNumbers cells)) := by
    by_cases hnumber : kindOf cells = .number
    · have hnumbers : areNumbers cells = true := decide_eq_true hnumber
      rw [hnumber, hnumbers, settle, List.map_map]
      rfl
    · have hnumbers : areNumbers cells = false := decide_eq_false hnumber
      have hsettle : settle (kindOf cells) cells = cells := by
        unfold settle
        split
        · exact absurd ‹_› hnumber
        · rfl
      rw [hsettle, hnumbers]
      apply List.map_congr_left
      intro cell hcell
      unfold stampIn
      by_cases hflag : kindOf cells = .flag
      · obtain ⟨flag, rfl⟩ := (surveyFrom_eq_flag hflag).2.2 cell hcell
        rw [hflag]
        rfl
      · rw [stampText?_eq_mixed hnumber hflag]
        rfl
  simp only [instants, ofCells, hstamps]

/-! ### Values -/

/-- The number of a cell, where it has one; any other cell is not a number. -/
def plainNumber (cell : Json) : Float :=
  match numberOf cell with
  | .ok number => number
  | .error _ => Decimal.notANumber

/-- A cell that is no whole number too large for a binary64 number. -/
def IsReadable (cell : Json) : Prop := ∀ value, cell = .int value → Decimal.ofInt? value ≠ none

theorem numberOf_eq_ok_iff (cell : Json) (number : Float) :
    numberOf cell = .ok number ↔ IsReadable cell ∧ number = plainNumber cell := by
  unfold IsReadable plainNumber numberOf
  cases cell with
  | int value =>
      cases hvalue : Decimal.ofInt? value with
      | some nearest => simp [hvalue, eq_comm]
      | none => simp [hvalue]
  | _ => simp [eq_comm]

/-- The numbers of a column are those of its cells one by one. -/
theorem numbers_eq_ok_iff (cells : List Json) (values : List Float) :
    numbers cells = .ok values ↔
      (∀ cell ∈ cells, IsReadable cell) ∧ values = cells.map fun cell =>
        if areWhole cells then Decimal.oneZero (plainNumber cell) else plainNumber cell := by
  have hcells : ∀ raw, cells.mapM numberOf = .ok raw ↔
      (∀ cell ∈ cells, IsReadable cell) ∧ raw = cells.map plainNumber := fun raw =>
    mapM_eq_ok_iff fun cell _ => numberOf_eq_ok_iff cell
  have hsettle : (cells.map fun cell =>
      if areWhole cells then Decimal.oneZero (plainNumber cell) else plainNumber cell) =
        if areWhole cells then (cells.map plainNumber).map Decimal.oneZero
        else cells.map plainNumber := by
    split
    · rw [List.map_map]
      rfl
    · rfl
  rw [hsettle]
  constructor
  · intro hnumbers
    obtain ⟨raw, hraw, hvalues⟩ := bind_eq_ok hnumbers
    obtain ⟨hreadable, rfl⟩ := (hcells raw).mp hraw
    exact ⟨hreadable, (Except.ok.inj hvalues).symm⟩
  · rintro ⟨hreadable, rfl⟩
    rw [numbers, (hcells _).mpr ⟨hreadable, rfl⟩]
    rfl

end Column

namespace Reading

/-! ### Records -/

/-- What the columns of some records decide for each of them. -/
structure Context where
  areNumbers : Bool
  isFine : Bool
  areWhole : Bool

def contextOf (records : List Record) : Context :=
  let timestamps := records.map (·.timestamp)
  let areNumbers := Column.areNumbers timestamps
  { areNumbers := areNumbers
    isFine := (Column.instantsOfStamps (timestamps.map (Column.stampIn areNumbers))).1
    areWhole := Column.areWhole (records.map (·.value)) }

/-- The reading of a record in a context, if it has one. -/
def ofRecord? (context : Context) (record : Record) : Option Reading :=
  let number := Column.plainNumber record.value
  ofCells? (Column.instantOf context.isFine (Column.stampIn context.areNumbers record.timestamp))
    (if context.areWhole then Decimal.oneZero number else number)

/-- The readings of records that an age limit lets through, in the order of the records. -/
def fresh (oldest : Option Moment) (context : Context) (records : List Record) : List Reading :=
  (records.filterMap (ofRecord? context)).filter (isNewer oldest)

/-- Records whose values can be told and whose timestamps can be compared with a cutoff. -/
structure AreReadable (oldest : Option Moment) (records : List Record) : Prop where
  values : ∀ record ∈ records, Column.IsReadable record.value
  timestamps : records ≠ [] → ∀ limit ∈ oldest,
    (limit.isNaive = true ↔ ∀ record ∈ records, ∃ flag, record.timestamp = .bool flag)

/-- The kind of column that the timestamps of records make up once they are converted. -/
def timestampKind (records : List Record) : Column.Kind :=
  (Column.instants (Column.ofCells (records.map (·.timestamp))).1
    (Column.ofCells (records.map (·.timestamp))).2).1

variable {now : Moment} {limits : Limits} {oldest last : Option Moment} {records : List Record}

/-- A cutoff can be compared with instants that are on a clock like its own. -/
theorem newerThan_eq_ok_iff (kind : Column.Kind) (readings kept : List Reading) :
    newerThan kind oldest readings = .ok kept ↔
      (∀ limit ∈ oldest, (limit.isNaive = true ↔ kind = .naiveInstants)) ∧
        kept = readings.filter (isNewer oldest) := by
  cases oldest with
  | none =>
      have hall : readings.filter (isNewer none) = readings :=
        List.filter_eq_self.mpr fun _ _ => rfl
      change Except.ok readings = .ok kept ↔ _
      rw [hall, Except.ok.injEq]
      constructor
      · intro hkept
        exact ⟨fun limit hlimit => absurd hlimit (Option.not_mem_none limit), hkept.symm⟩
      · exact fun hkept => hkept.2.symm
  | some limit =>
      simp only [newerThan, within, limitInstant, Option.mem_some_iff, forall_eq']
      by_cases hclock : limit.isNaive = true ↔ kind = .naiveInstants
      · rw [if_pos (propext hclock), ok_bind, pure_eq_ok, Except.ok.injEq]
        exact ⟨fun hkept => ⟨hclock, hkept.symm⟩, fun hkept => hkept.2.symm⟩
      · rw [if_neg fun hsame => hclock (iff_of_eq hsame), error_bind]
        constructor
        · intro hkept
          cases hkept
        · exact fun hkept => absurd hkept.1 hclock

/-- Timestamps are on no particular clock exactly if all of them are flags. -/
theorem timestampKind_eq_naive_iff (hne : records ≠ []) :
    timestampKind records = .naiveInstants ↔
      ∀ record ∈ records, ∃ flag, record.timestamp = .bool flag := by
  constructor
  · intro hnaive record hrecord
    exact Column.instants_eq_naive (Prod.ext hnaive rfl) _ (List.mem_map_of_mem hrecord)
  · intro hflags
    exact Column.instants_of_flags (mt List.map_eq_nil_iff.mp hne)
      (List.forall_mem_map.mpr hflags)

/-- The instants of records, each of them by the context alone. -/
theorem instants_timestamps (records : List Record) :
    (Column.instants (Column.ofCells (records.map (·.timestamp))).1
      (Column.ofCells (records.map (·.timestamp))).2).2 =
        records.map fun record => Column.instantOf (contextOf records).isFine
          (Column.stampIn (contextOf records).areNumbers record.timestamp) := by
  rw [Column.instants_ofCells, Column.instantsOfStamps_eq_map, List.map_map, List.map_map]
  rfl

/-- The numbers of records, each of them by the context alone. -/
theorem numbers_values_iff (records : List Record) (numbers : List Float) :
    Column.numbers (records.map (·.value)) = .ok numbers ↔
      (∀ record ∈ records, Column.IsReadable record.value) ∧
        numbers = records.map fun record =>
          if (contextOf records).areWhole then
            Decimal.oneZero (Column.plainNumber record.value)
          else Column.plainNumber record.value := by
  rw [Column.numbers_eq_ok_iff, List.forall_mem_map, List.map_map]
  rfl

/-- What stands in two columns for some records makes up their readings one by one. -/
theorem filterMap_zipWith_ofCells? (context : Context) (records : List Record) :
    (List.zipWith ofCells?
      (records.map fun record => Column.instantOf context.isFine
        (Column.stampIn context.areNumbers record.timestamp))
      (records.map fun record =>
        if context.areWhole then Decimal.oneZero (Column.plainNumber record.value)
        else Column.plainNumber record.value)).filterMap id =
      records.filterMap (ofRecord? context) := by
  induction records with
  | nil => rfl
  | cons record rest ih =>
      simp only [List.map_cons, List.zipWith_cons_cons, List.filterMap_cons, ih]
      rfl

/-- Once the values of records can be told, a selection goes on with their readings one by one. -/
theorem select_eq_ok_iff_of_ne_nil (hcutoff : cutoff now limits = .ok oldest) (hne : records ≠ [])
    (readings : List Reading) :
    select now limits last records = .ok readings ↔
      (∀ record ∈ records, Column.IsReadable record.value) ∧
        (do
          let kept ← notAfter (timestampKind records) last
            (records.filterMap (ofRecord? (contextOf records)))
          let newer ← newerThan (timestampKind records) oldest kept
          pure (capped limits.maxCount (newestFirst newer))) = .ok readings := by
  rw [select_eq hcutoff hne]
  constructor
  · intro hselect
    obtain ⟨numbers, hnumbers, hsteps⟩ := bind_eq_ok hselect
    obtain ⟨hvalues, rfl⟩ := (numbers_values_iff records numbers).mp hnumbers
    rw [instants_timestamps, filterMap_zipWith_ofCells?] at hsteps
    exact ⟨hvalues, hsteps⟩
  · rintro ⟨hvalues, hsteps⟩
    dsimp only
    rw [(numbers_values_iff records _).mpr ⟨hvalues, rfl⟩, ok_bind, instants_timestamps,
      filterMap_zipWith_ofCells?]
    exact hsteps

/-- A selection comes to an end exactly if the records are readable, and then it has the readings of
the records one by one, newest first and up to the cap. -/
theorem select_eq_ok_iff (hcutoff : cutoff now limits = .ok oldest) (readings : List Reading) :
    select now limits none records = .ok readings ↔
      AreReadable oldest records ∧
        readings =
          capped limits.maxCount (newestFirst (fresh oldest (contextOf records) records)) := by
  by_cases hne : records = []
  · subst hne
    have hreadable : AreReadable oldest [] := ⟨nofun, fun hne => absurd rfl hne⟩
    have hnil : capped limits.maxCount (newestFirst (fresh oldest (contextOf []) [])) = [] := by
      have hnone : newestFirst (fresh oldest (contextOf []) []) = [] := List.mergeSort_nil
      rw [hnone, capped_nil]
    change Except.ok [] = .ok readings ↔ _
    rw [hnil, Except.ok.injEq]
    exact ⟨fun hsame => ⟨hreadable, hsame.symm⟩, fun hsame => hsame.2.symm⟩
  · rw [select_eq_ok_iff_of_ne_nil hcutoff hne]
    change _ ∧ (newerThan (timestampKind records) oldest _ >>= _) = _ ↔ _
    constructor
    · rintro ⟨hvalues, hsteps⟩
      obtain ⟨newer, hnewer, hsorted⟩ := bind_eq_ok hsteps
      obtain ⟨hclock, rfl⟩ := (newerThan_eq_ok_iff _ _ newer).mp hnewer
      rw [timestampKind_eq_naive_iff hne] at hclock
      exact ⟨⟨hvalues, fun _ => hclock⟩, (Except.ok.inj hsorted).symm⟩
    · rintro ⟨hreadable, rfl⟩
      have hclock := hreadable.timestamps hne
      rw [← timestampKind_eq_naive_iff hne] at hclock
      rw [(newerThan_eq_ok_iff _ _ _).mpr ⟨hclock, rfl⟩]
      exact ⟨hreadable.values, rfl⟩

/-- A cutoff that says how far it is from UTC can be compared with timestamps that are not all
flags. -/
theorem areReadable_of_aware (hvalues : ∀ record ∈ records, Column.IsReadable record.value)
    (haware : ∀ limit ∈ oldest, limit.isNaive = false) {record : Record} (hmem : record ∈ records)
    (hclock : ∀ flag, record.timestamp ≠ .bool flag) : AreReadable oldest records where
  values := hvalues
  timestamps _ limit hlimit := by
    rw [haware limit hlimit]
    refine ⟨nofun, fun hflags => ?_⟩
    obtain ⟨flag, hflag⟩ := hflags record hmem
    exact absurd hflag (hclock flag)

/-- A selection among some records needs a cutoff. -/
theorem exists_cutoff_of_select (hne : records ≠ []) {readings : List Reading}
    (hselect : select now limits last records = .ok readings) :
    ∃ oldest, cutoff now limits = .ok oldest := by
  have hsome : records.isEmpty = false := List.isEmpty_eq_false_iff.mpr hne
  cases hcutoff : cutoff now limits with
  | ok oldest => exact ⟨oldest, rfl⟩
  | error failure =>
      simp only [select, hsome, Bool.false_eq_true, if_false, hcutoff, error_bind, reduceCtorEq]
        at hselect

end Reading

end AirQuality
