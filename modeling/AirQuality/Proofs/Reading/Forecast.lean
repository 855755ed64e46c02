import AirQuality.Proofs.Reading.RoundTrip
import AirQuality.Proofs.Recency

/-!
# Forecasts among readings

A series may go on into the future.  What lies after the present is left out before the newest
readings are chosen, so that it takes nobody's place.  Yet a forecast stands in the same columns as
the readings: it may make the selection fail, or make other timestamps stand for something else.
-/

namespace AirQuality

open Outcome
open Time (Moment)

namespace Reading

/-! ### The present as a limit -/

/-- Whether a timestamp in a column, of numbers or not, stands for an instant after the present. -/
def isAhead (now : Moment) (areNumbers : Bool) (timestamp : Json) : Bool :=
  (Column.stampIn areNumbers timestamp).any fun stamp => now.instant * 1000 < stamp.nanos

/-- The records that are no forecasts. -/
def past (now : Moment) (records : List Record) : List Record :=
  records.filter fun record => !isAhead now (contextOf records).areNumbers record.timestamp

def isPast (now : Moment) (reading : Reading) : Bool := reading.instant ≤ now.instant * 1000

variable {now : Moment} {limits : Limits} {oldest : Option Moment} {records : List Record}

theorem isPast_settleZero (records : List Record) (reading : Reading) :
    isPast now (settleZero records reading) = isPast now reading := by
  unfold isPast
  rw [instant_settleZero]

/-- The present can be compared with instants that are on a clock like its own. -/
theorem notAfter_eq_ok_iff (kind : Column.Kind) (readings kept : List Reading) :
    notAfter kind (some now) readings = .ok kept ↔
      (now.isNaive = true ↔ kind = .naiveInstants) ∧ kept = readings.filter (isPast now) := by
  simp only [notAfter, within, limitInstant]
  by_cases hclock : now.isNaive = true ↔ kind = .naiveInstants
  · rw [if_pos (propext hclock), ok_bind, pure_eq_ok, Except.ok.injEq]
    exact ⟨fun hkept => ⟨hclock, hkept.symm⟩, fun hkept => hkept.2.symm⟩
  · rw [if_neg fun hsame => hclock (iff_of_eq hsame), error_bind]
    constructor
    · intro hkept
      cases hkept
    · exact fun hkept => absurd hkept.1 hclock

/-- A selection up to the present comes to an end exactly if the values of the records can be told
and the present is naive just if all of their timestamps are flags, and then it has their fresh
readings up to the present, newest first and up to the cap. -/
theorem select_now_eq_ok_iff (hcutoff : cutoff now limits = .ok oldest) (hne : records ≠ [])
    (readings : List Reading) :
    select now limits (some now) records = .ok readings ↔
      (∀ record ∈ records, Column.IsReadable record.value) ∧
        (now.isNaive = true ↔ ∀ record ∈ records, ∃ flag, record.timestamp = .bool flag) ∧
        readings = capped limits.maxCount
          (newestFirst ((fresh oldest (contextOf records) records).filter (isPast now))) := by
  rw [select_eq_ok_iff_of_ne_nil hcutoff hne, ← timestampKind_eq_naive_iff hne]
  refine and_congr_right fun _ => ?_
  constructor
  · intro hsteps
    obtain ⟨kept, hkept, hsteps⟩ := bind_eq_ok hsteps
    obtain ⟨newer, hnewer, hsorted⟩ := bind_eq_ok hsteps
    obtain ⟨hclock, rfl⟩ := (notAfter_eq_ok_iff _ _ kept).mp hkept
    obtain ⟨-, rfl⟩ := (newerThan_eq_ok_iff _ _ newer).mp hnewer
    refine ⟨hclock, ?_⟩
    rw [fresh, List.filter_comm]
    exact (Except.ok.inj hsorted).symm
  · rintro ⟨hclock, rfl⟩
    -- The cutoff is on the clock of the present.
    have hlimits (limit : Moment) (hlimit : limit ∈ oldest) :
        limit.isNaive = true ↔ timestampKind records = .naiveInstants := by
      rwa [(of_cutoff hcutoff).2 limit hlimit]
    rw [(notAfter_eq_ok_iff _ _ _).mpr ⟨hclock, rfl⟩, ok_bind,
      (newerThan_eq_ok_iff _ _ _).mpr ⟨hlimits, rfl⟩, fresh, List.filter_comm]
    rfl

theorem isPast_of_select {readings : List Reading}
    (hselect : select now limits (some now) records = .ok readings) {reading : Reading}
    (hmem : reading ∈ readings) : isPast now reading = true := by
  obtain ⟨oldest, hcutoff, -⟩ := isNewer_of_select hselect hmem
  obtain ⟨record, hrecord, -⟩ := exists_record_of_select hcutoff hselect hmem
  obtain ⟨-, -, rfl⟩ :=
    (select_now_eq_ok_iff hcutoff (List.ne_nil_of_mem hrecord) readings).mp hselect
  have hsorted := List.mem_mergeSort.mp ((capped_sublist _ _).subset hmem)
  exact (List.mem_filter.mp hsorted).2

/-! ### Taking out forecasts -/

/-- Forecasts that may be taken out from among records without a difference to the others.  Their
values can be told; where there are any, the others have a timestamp that is no flag, or there are
none, and the present says how far it is from UTC and there is a cutoff; and the others' timestamps
do not become a column of numbers, nor cease to be one, unless they stand for the same in both. -/
structure AreSeparable (now : Moment) (limits : Limits) (records : List Record) : Prop where
  values : ∀ record ∈ records, isAhead now (contextOf records).areNumbers record.timestamp = true →
    Column.IsReadable record.value
  left : past now records ≠ records →
    (past now records = [] ∧ now.isNaive = false ∧ ∃ oldest, cutoff now limits = .ok oldest) ∨
      ∃ record ∈ past now records, ∀ flag, record.timestamp ≠ .bool flag
  kind : (contextOf (past now records)).areNumbers = (contextOf records).areNumbers ∨
    ∀ record ∈ past now records,
      Column.stampIn true record.timestamp = Column.stampIn false record.timestamp

theorem past_subset {record : Record} (hrecord : record ∈ past now records) : record ∈ records :=
  (List.mem_filter.mp hrecord).1

theorem isFine_contextOf_of_isCoarse (hcoarse : ∀ record ∈ records, record.IsCoarse) :
    (contextOf records).isFine = false := by
  refine Bool.eq_false_iff.mpr fun hfine => ?_
  obtain ⟨record, hrecord, stamp, hstamp, hisFine⟩ := (isFine_contextOf_iff records).mp hfine
  obtain ⟨-, -, hcoarse⟩ := Column.exists_text_of_stampIn (hcoarse record hrecord) hstamp
  rw [hcoarse] at hisFine
  cases hisFine

/-- A reading is a forecast exactly if the timestamp of its record is ahead. -/
theorem isPast_of_ofRecord? {context : Context} {record : Record} {reading : Reading}
    (hread : ofRecord? context record = some reading) :
    isPast now reading = !isAhead now context.areNumbers record.timestamp := by
  obtain ⟨stamp, hstamp, hinstant⟩ := exists_stampIn_of_ofRecord? hread
  rw [isPast, isAhead, hstamp, Option.any_some, ← hinstant, ← decide_not]
  exact decide_eq_decide.mpr Int.not_lt.symm

/-- What is left up to the present is the same whether forecasts are left out before that or not. -/
theorem filter_isPast_fresh (context : Context) (records : List Record) :
    (fresh oldest context (records.filter fun record =>
        !isAhead now context.areNumbers record.timestamp)).filter (isPast now) =
      (fresh oldest context records).filter (isPast now) := by
  unfold fresh
  rw [List.filter_comm, List.filter_comm (isPast now)]
  congr 1
  induction records with
  | nil => rfl
  | cons record rest ih =>
      cases hahead : isAhead now context.areNumbers record.timestamp with
      | true =>
          rw [List.filter_cons_of_neg (by simp [hahead]), ih]
          cases hread : ofRecord? context record with
          | none => rw [List.filterMap_cons_none hread]
          | some reading =>
              have hlate : ¬isPast now reading = true := by
                simp [isPast_of_ofRecord? hread, hahead]
              rw [List.filterMap_cons_some hread, List.filter_cons_of_neg hlate]
      | false =>
          rw [List.filter_cons_of_pos (by simp [hahead])]
          cases hread : ofRecord? context record with
          | none => rw [List.filterMap_cons_none hread, List.filterMap_cons_none hread, ih]
          | some reading =>
              rw [List.filterMap_cons_some hread, List.filterMap_cons_some hread, List.filter_cons,
                List.filter_cons, ih]

theorem AreSeparable.ofRecord?_eq (hseparable : AreSeparable now limits records)
    (hcoarse : ∀ record ∈ records, record.IsCoarse) {record : Record}
    (hrecord : record ∈ past now records) :
    (ofRecord? (contextOf records) record).map (settleZero (past now records)) =
      ofRecord? (contextOf (past now records)) record := by
  have hstamp : Column.stampIn (contextOf records).areNumbers record.timestamp =
      Column.stampIn (contextOf (past now records)).areNumbers record.timestamp :=
    Column.stampIn_eq (hseparable.kind.imp Eq.symm fun halike => halike record hrecord)
  refine ofRecord?_map_settleZero ?_ (Column.areWhole_of_subset fun cell hcell => ?_)
  · rw [hstamp, isFine_contextOf_of_isCoarse hcoarse,
      isFine_contextOf_of_isCoarse fun other hother => hcoarse other (past_subset hother)]
  · obtain ⟨other, hother, rfl⟩ := List.mem_map.mp hcell
    exact List.mem_map_of_mem (past_subset hother)

/-- The fresh readings up to the present are those without the forecasts, up to the sign of a
zero. -/
theorem AreSeparable.fresh_eq (hseparable : AreSeparable now limits records)
    (hcoarse : ∀ record ∈ records, record.IsCoarse) :
    ((fresh oldest (contextOf records) records).filter (isPast now)).map
        (settleZero (past now records)) =
      (fresh oldest (contextOf (past now records)) (past now records)).filter (isPast now) := by
  have hpast : isPast now ∘ settleZero (past now records) = isPast now :=
    funext (isPast_settleZero (past now records))
  rw [← filter_isPast_fresh, ← hpast, ← List.filter_map, hpast]
  congr 1
  exact fresh_map_settleZero fun record hrecord => hseparable.ofRecord?_eq hcoarse hrecord

/-- Forecasts alone are not flags. -/
theorem ne_flag_of_past_eq_nil (hempty : past now records = []) {record : Record}
    (hrecord : record ∈ records) (flag : Bool) : record.timestamp ≠ .bool flag := by
  have hahead := List.filter_eq_nil_iff.mp hempty record hrecord
  rw [Bool.not_eq_true', Bool.not_eq_false] at hahead
  obtain ⟨stamp, hstamp, -⟩ := Option.any_eq_true _ _ |>.mp hahead
  exact ne_flag_of_stampIn hrecord hstamp flag

/-- A selection has the signs of its zeros taken off already. -/
theorem map_settleZero_of_select {last : Option Moment} {readings : List Reading}
    (hselect : select now limits last records = .ok readings) :
    readings.map (settleZero records) = readings := by
  have hsettled (reading : Reading) (hmem : reading ∈ readings) :
      settleZero records reading = id reading := by
    obtain ⟨oldest, hcutoff, -⟩ := isNewer_of_select hselect hmem
    obtain ⟨record, -, hread⟩ := exists_record_of_select hcutoff hselect hmem
    have hstays : (ofRecord? (contextOf records) record).map (settleZero records) =
        ofRecord? (contextOf records) record := ofRecord?_map_settleZero rfl id
    rw [hread, Option.map_some, Option.some.injEq] at hstays
    exact hstays
  rw [List.map_congr_left hsettled, List.map_id]

/-- The newest readings up to the present are those without the forecasts, up to the sign of a
zero. -/
theorem AreSeparable.newest_eq (hseparable : AreSeparable now limits records)
    (hcoarse : ∀ record ∈ records, record.IsCoarse) (oldest : Option Moment) :
    (capped limits.maxCount (newestFirst
        ((fresh oldest (contextOf records) records).filter (isPast now)))).map
          (settleZero (past now records)) =
      capped limits.maxCount (newestFirst ((fresh oldest (contextOf (past now records))
        (past now records)).filter (isPast now))) := by
  rw [← capped_map, newestFirst_map_settleZero, hseparable.fresh_eq hcoarse]

/-- The values can be told with the forecasts if they can be told without. -/
theorem AreSeparable.isReadable (hseparable : AreSeparable now limits records)
    (hpast : ∀ record ∈ past now records, Column.IsReadable record.value) :
    ∀ record ∈ records, Column.IsReadable record.value := by
  intro record hrecord
  cases hahead : isAhead now (contextOf records).areNumbers record.timestamp with
  | true => exact hseparable.values record hrecord hahead
  | false => exact hpast record (List.mem_filter.mpr ⟨hrecord, by rw [hahead]; rfl⟩)

/-- Nothing is selected from forecasts alone. -/
theorem AreSeparable.select_eq_nil (hseparable : AreSeparable now limits records)
    (hcoarse : ∀ record ∈ records, record.IsCoarse) (haware : now.isNaive = false)
    (hcutoff : cutoff now limits = .ok oldest) (hne : records ≠ [])
    (hempty : past now records = []) : select now limits (some now) records = .ok [] := by
  have hnewest := hseparable.newest_eq hcoarse oldest
  have hvalues := hseparable.isReadable
  have hnone : newestFirst ((fresh oldest (contextOf []) []).filter (isPast now)) = [] :=
    List.mergeSort_nil
  rw [hempty, hnone, capped_nil] at hnewest
  rw [hempty] at hvalues
  refine (select_now_eq_ok_iff hcutoff hne []).mpr ⟨hvalues (List.forall_mem_nil _),
    iff_of_false (by rw [haware]; nofun) fun hflags => ?_, (List.map_eq_nil_iff.mp hnewest).symm⟩
  obtain ⟨record, hrecord⟩ := List.exists_mem_of_ne_nil records hne
  obtain ⟨flag, hflag⟩ := hflags record hrecord
  exact ne_flag_of_past_eq_nil hempty hrecord flag hflag

/-- The selection up to the present is the one without the forecasts, up to the sign of a zero. -/
theorem AreSeparable.select_iff (hseparable : AreSeparable now limits records)
    (hcoarse : ∀ record ∈ records, record.IsCoarse) (readings : List Reading) :
    select now limits (some now) (past now records) = .ok readings ↔
      ∃ all, select now limits (some now) records = .ok all ∧
        all.map (settleZero (past now records)) = readings := by
  -- Without forecasts there is one selection, whatever the present is.
  by_cases hsame : past now records = records
  · rw [hsame]
    constructor
    · exact fun hselect => ⟨readings, hselect, map_settleZero_of_select hselect⟩
    · rintro ⟨all, hselect, rfl⟩
      rwa [map_settleZero_of_select hselect]
  have hne : records ≠ [] := fun hnone => hsame (by rw [hnone]; rfl)
  rcases hseparable.left hsame with ⟨hempty, haware, oldest, hcutoff⟩ | ⟨record, hrecord, hclock⟩
  · rw [hempty, hseparable.select_eq_nil hcoarse haware hcutoff hne hempty]
    constructor
    · exact fun hselect => ⟨[], rfl, Except.ok.inj hselect⟩
    · rintro ⟨all, hall, rfl⟩
      cases hall
      rfl
  have hpast : past now records ≠ [] := List.ne_nil_of_mem hrecord
  -- A selection fails without a cutoff, unless there is nothing to select from.
  cases hcutoff : cutoff now limits with
  | error failure =>
      have hnone (others : List Record) (hothers : others ≠ []) (readings : List Reading) :
          select now limits (some now) others ≠ .ok readings := by
        intro hselect
        obtain ⟨oldest, holdest⟩ := exists_cutoff_of_select hothers hselect
        cases hcutoff.symm.trans holdest
      exact ⟨fun hselect => absurd hselect (hnone _ hpast _),
        fun ⟨all, hselect, _⟩ => absurd hselect (hnone _ hne _)⟩
  | ok oldest =>
      have hnot (others : List Record) (hother : record ∈ others) :
          ¬∀ record ∈ others, ∃ flag, record.timestamp = .bool flag := by
        intro hall
        obtain ⟨flag, hflag⟩ := hall record hother
        exact hclock flag hflag
      have hflags : (∀ record ∈ past now records, ∃ flag, record.timestamp = .bool flag) ↔
          ∀ record ∈ records, ∃ flag, record.timestamp = .bool flag :=
        iff_of_false (hnot _ hrecord) (hnot _ (past_subset hrecord))
      simp only [select_now_eq_ok_iff hcutoff hpast, select_now_eq_ok_iff hcutoff hne, hflags]
      constructor
      · rintro ⟨hvalues, hnaive, rfl⟩
        exact ⟨_, ⟨hseparable.isReadable hvalues, hnaive, rfl⟩, hseparable.newest_eq hcoarse oldest⟩
      · rintro ⟨all, ⟨hvalues, hnaive, rfl⟩, rfl⟩
        exact ⟨fun other hother => hvalues other (past_subset hother), hnaive,
          hseparable.newest_eq hcoarse oldest⟩

end Reading

/-! ### Measurements -/

namespace Measurement

variable {tag : Tag} {now : Moment} {limits : Limits} {last : Option Moment} {records : List Record}

/-- Measurements are made of the selected readings, if these are in the calendar. -/
theorem ofRecords_eq_ok_iff_select (measurements : List Measurement) :
    ofRecords tag now limits last records = .ok measurements ↔
      ∃ readings, Reading.select now limits last records = .ok readings ∧
        (∀ reading ∈ readings, Time.inCalendar (reading.instant / 1000) = true) ∧
        measurements = readings.map (ofDated tag) := by
  have hread (readings : List Reading) : readings.mapM (ofReading tag) = .ok measurements ↔
      (∀ reading ∈ readings, Time.inCalendar (reading.instant / 1000) = true) ∧
        measurements = readings.map (ofDated tag) :=
    mapM_eq_ok_iff fun reading _ measurement => ofReading_eq_ok_iff reading measurement
  constructor
  · intro hmade
    obtain ⟨readings, hselect, hmade⟩ := bind_eq_ok hmade
    exact ⟨readings, hselect, (hread readings).mp hmade⟩
  · rintro ⟨readings, hselect, hmade⟩
    rw [ofRecords, hselect, ok_bind]
    exact (hread readings).mpr hmade

theorem map_ofDated_settleZero (tag : Tag) (others : List Record) (readings : List Reading) :
    (readings.map (Reading.settleZero others)).map (ofDated tag) =
      (readings.map (ofDated tag)).map (settleZero others) := by
  simp only [List.map_map, Function.comp_def, ofDated_settleZero]

/-- The measurements up to the present are those that are made without the forecasts, up to the sign
of a zero, or there are none in either case. -/
theorem ofRecords_past_iff (tag : Tag) (hcoarse : ∀ record ∈ records, record.IsCoarse)
    (hseparable : Reading.AreSeparable now limits records)
    (measurements : List Measurement) :
    ofRecords tag now limits (some now) (Reading.past now records) = .ok measurements ↔
      ∃ all, ofRecords tag now limits (some now) records = .ok all ∧
        all.map (settleZero (Reading.past now records)) = measurements := by
  have hdated (all : List Reading) :
      (∀ reading ∈ all.map (Reading.settleZero (Reading.past now records)),
          Time.inCalendar (reading.instant / 1000) = true) ↔
        ∀ reading ∈ all, Time.inCalendar (reading.instant / 1000) = true := by
    simp only [List.forall_mem_map, Reading.instant_settleZero]
  simp only [ofRecords_eq_ok_iff_select]
  constructor
  · rintro ⟨readings, hselect, hyears, rfl⟩
    obtain ⟨all, hall, rfl⟩ := (hseparable.select_iff hcoarse readings).mp hselect
    exact ⟨_, ⟨all, hall, (hdated all).mp hyears, rfl⟩, (map_ofDated_settleZero tag _ all).symm⟩
  · rintro ⟨-, ⟨all, hall, hyears, rfl⟩, rfl⟩
    exact ⟨_, (hseparable.select_iff hcoarse _).mpr ⟨all, hall, rfl⟩, (hdated all).mpr hyears,
      (map_ofDated_settleZero tag _ all).symm⟩

/-- A measurement of what stands in one place of two columns, up to the present and after the
cutoff. -/
structure IsPaired (tag : Tag) (now : Moment) (limits : Limits) (times values : List Json)
    (measurement : Measurement) : Prop where
  pair : ∃ (place : Nat) (time value : Json) (reading : Reading),
    times[place]? = some time ∧ values[place]? = some value ∧
      Reading.ofRecord? (Reading.contextOf (List.zipWith Record.mk times values)) ⟨time, value⟩ =
        some reading ∧
      measurement = ofDated tag reading ∧
      reading.instant = measurement.timestamp.instant * 1000
  last : measurement.timestamp.instant ≤ now.instant
  oldest : ∀ days, limits.maxAgeDays = some days → ∃ oldest, now.daysBefore days = .ok oldest ∧
    oldest.instant < measurement.timestamp.instant

/-- Every measurement up to the present is one of a pair. -/
theorem isPaired_of_ofRecords {times values : List Json}
    (hcoarse : ∀ record ∈ List.zipWith Record.mk times values, record.IsCoarse)
    {measurements : List Measurement}
    (hmade : ofRecords tag now limits (some now) (List.zipWith Record.mk times values) =
      .ok measurements) {measurement : Measurement} (hmem : measurement ∈ measurements) :
    IsPaired tag now limits times values measurement := by
  obtain ⟨readings, hselect, hdated, rfl⟩ := (ofRecords_eq_ok_iff_select measurements).mp hmade
  obtain ⟨reading, hreading, rfl⟩ := List.mem_map.mp hmem
  obtain ⟨oldest, hcutoff, hnewer⟩ := Reading.isNewer_of_select hselect hreading
  obtain ⟨record, hrecord, hread⟩ := Reading.exists_record_of_select hcutoff hselect hreading
  obtain ⟨place, hplace⟩ := List.mem_iff_getElem?.mp hrecord
  obtain ⟨time, value, htime, hvalue, rfl⟩ := List.getElem?_zipWith_eq_some.mp hplace
  have hpast : reading.instant ≤ now.instant * 1000 :=
    of_decide_eq_true (Reading.isPast_of_select hselect hreading)
  -- A coarse reading is at a whole number of microseconds, so that nothing is cut off its instant.
  have hexact := Reading.isExact_of_isCoarse (hcoarse _ hrecord) hread (hdated reading hreading)
  have hinstant : (ofDated tag reading).timestamp.instant = reading.instant / 1000 :=
    Int.sub_zero _
  have hmicros := hexact.micros
  constructor
  case pair =>
    refine ⟨place, time, value, reading, htime, hvalue, hread, rfl, ?_⟩
    omega
  case last => omega
  case oldest =>
    intro days hdays
    obtain ⟨oldest, rfl, hbefore⟩ := Reading.exists_daysBefore_of_cutoff hdays hcutoff
    have hless : oldest.instant * 1000 < reading.instant := of_decide_eq_true hnewer
    refine ⟨oldest, hbefore, ?_⟩
    omega

end Measurement

end AirQuality
