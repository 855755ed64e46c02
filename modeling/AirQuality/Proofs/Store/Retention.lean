import AirQuality.Proofs.LiveFirst.Providers
import AirQuality.Proofs.Recency
import AirQuality.Proofs.Store.Purge
import AirQuality.Proofs.Store.Snapshot
import AirQuality.Proofs.Time.Span

/-!
# Retention and age limits

What a snapshot stores is not before the cutoff of its age limit.  Purging keeps what is not before
a cutoff that lies as many days back or more.  So a purge at the time of a snapshot, with a
retention that is no shorter than the age limit, takes away nothing that the snapshot has stored.
-/

namespace AirQuality

open Outcome
open Decimal (Number)
open Time (Moment)

/-! ### Values that work gives -/

/-- Work on a state that comes to such values only. -/
def GivesOnly {σ α : Type} (holds : α → Prop) (work : ExceptT Failure (StateM σ) α) : Prop :=
  ∀ state value, (work.run state).1 = .ok value → holds value

namespace GivesOnly

variable {σ α β : Type} {holds : α → Prop} {after : β → Prop}

theorem pure {value : α} (hvalue : holds value) :
    GivesOnly holds (Pure.pure value : ExceptT Failure (StateM σ) α) := by
  intro state result hresult
  exact Except.ok.inj hresult ▸ hvalue

theorem lift {outcome : Except Failure α} (houtcome : ∀ value, outcome = .ok value → holds value) :
    GivesOnly holds (Watched.lift outcome : ExceptT Failure (StateM σ) α) :=
  fun _ value hvalue => houtcome value hvalue

theorem bind {work : ExceptT Failure (StateM σ) α} {next : α → ExceptT Failure (StateM σ) β}
    (hwork : GivesOnly holds work) (hnext : ∀ value, holds value → GivesOnly after (next value)) :
    GivesOnly after (work >>= next) := by
  intro state result hresult
  have hsteps : (ExceptT.bindCont next (work.run state).1 (work.run state).2).1 = .ok result :=
    hresult
  cases hvalue : (work.run state).1 with
  | error failure =>
      rw [hvalue] at hsteps
      cases hsteps
  | ok value =>
      rw [hvalue] at hsteps
      exact hnext value (hwork state value hvalue) _ result hsteps

/-- The last part of work tells what it gives. -/
theorem last {work : ExceptT Failure (StateM σ) α} {next : α → ExceptT Failure (StateM σ) β}
    (hnext : ∀ value, GivesOnly after (next value)) : GivesOnly after (work >>= next) :=
  bind (fun _ _ _ => trivial) fun value _ => hnext value

theorem mapM {next : β → ExceptT Failure (StateM σ) α} (hnext : ∀ item, GivesOnly holds (next item))
    (items : List β) :
    GivesOnly (fun values => ∀ value ∈ values, holds value) (items.mapM next) := by
  induction items with
  | nil => exact pure (List.forall_mem_nil _)
  | cons item rest ih =>
      rw [List.mapM_cons]
      refine (hnext item).bind fun value hvalue => ih.bind fun others hothers => ?_
      exact pure (List.forall_mem_cons.mpr ⟨hvalue, hothers⟩)

end GivesOnly

/-! ### Sources -/

namespace Source

/-- A source that answers with measurements at moments that the limits of the query reach. -/
def KeepsLimits {σ : Type} (now : Moment) (source : Source (StateM σ)) : Prop :=
  ∀ query, GivesOnly (Measurement.AreRecent now query.limits) (source.measurements query)

/-- A source whose plans are carried out with a way to fetch. -/
def carried {τ : Type} (fetch : Request → Fetching τ Json) (source : Source Plan) :
    Source (StateM (Session τ)) :=
  source.map fun work => Work.perform fetch work

variable {τ : Type} {now : Moment}

theorem keepsLimits_carried {source : Source Plan}
    (hsource : ∀ query, Work.Yields (Measurement.AreRecent now query.limits)
      (source.measurements query))
    (fetch : Request → Fetching τ Json) : (source.carried fetch).KeepsLimits now :=
  fun query _ _ hvalue => (hsource query).perform fetch hvalue

/-- The providers keep the limits of every query, whatever they fetch. -/
theorem providers_keepsLimits {hasKey : Bool} {pages : Nat} {points : List Station}
    {offered : List OpenMeteo.Variable} {source : Source Plan}
    (hsource : source ∈ [Gios.source now pages, OpenAq.source now hasKey pages,
      OpenMeteo.source now points offered]) (fetch : Request → Fetching τ Json) :
    (source.carried fetch).KeepsLimits now := by
  simp only [List.mem_cons, List.not_mem_nil, or_false] at hsource
  rcases hsource with rfl | rfl | rfl
  · exact keepsLimits_carried (fun query => Gios.yields_measurements) fetch
  · exact keepsLimits_carried (fun query => OpenAq.yields_measurements hasKey pages) fetch
  · exact keepsLimits_carried (fun query => OpenMeteo.yields_measurements _) fetch

end Source

namespace Store

section

variable {σ : Type} {source : Source (StateM σ)} {now stamp : Moment}
  {region : Option Region} {limits : Limits}

/-! ### Snapshots -/

/-- The time of a record is kept as it is, and limits reach it. -/
def MeasurementRecord.KeepsLimits (now : Moment) (limits : Limits) (record : MeasurementRecord) :
    Prop :=
  record.timestamp.offset = none ∧ limits.Reach now record.timestamp

def Snapshot.KeepsLimits (now : Moment) (limits : Limits) (snapshot : Snapshot) : Prop :=
  ∀ record ∈ snapshot.measurements, record.KeepsLimits now limits

theorem keepsLimits_join {parts : List Snapshot}
    (hparts : ∀ part ∈ parts, part.KeepsLimits now limits) :
    (Snapshot.join parts).KeepsLimits now limits := by
  induction parts with
  | nil => exact List.forall_mem_nil _
  | cons part rest ih =>
      obtain ⟨hpart, hrest⟩ := List.forall_mem_cons.mp hparts
      exact List.forall_mem_append.mpr ⟨hpart, ih hrest⟩

/-- Bringing a moment to UTC does not change its instant. -/
theorem keepsLimits_of_ofMeasurement {parameterId : String} {measurement : Measurement}
    {record : MeasurementRecord} (hreach : limits.Reach now measurement.timestamp)
    (hrecord : MeasurementRecord.ofMeasurement stamp parameterId measurement = .ok record) :
    record.KeepsLimits now limits := by
  have htimestamp := (MeasurementRecord.isOf_ofMeasurement hrecord).timestamp
  have hinstant : record.timestamp.instant = measurement.timestamp.instant := by
    rw [htimestamp]
    exact Int.sub_zero _
  refine ⟨congrArg Moment.offset htimestamp, fun days hdays => ?_⟩
  rw [hinstant]
  exact hreach days hdays

theorem givesOnly_ofParameter (hsource : source.KeepsLimits now) (station : Station)
    (parameter : Parameter) :
    GivesOnly (Snapshot.KeepsLimits now limits)
      (Snapshot.ofParameter stamp source limits station parameter) := by
  refine GivesOnly.last fun record => (hsource _).bind fun measurements hrecent => ?_
  have hread : GivesOnly (fun rows => ∀ row ∈ rows, row.KeepsLimits now limits)
      (Watched.lift (measurements.mapM (MeasurementRecord.ofMeasurement stamp parameter.id)) :
        ExceptT Failure (StateM σ) (List MeasurementRecord)) := by
    refine GivesOnly.lift fun rows hrows row hrow => ?_
    obtain ⟨measurement, hmem, hrecord⟩ := exists_mem_of_mapM hrows hrow
    exact keepsLimits_of_ofMeasurement (hrecent measurement hmem) hrecord
  exact hread.bind fun rows hrows => GivesOnly.pure hrows

theorem givesOnly_ofStation (hsource : source.KeepsLimits now) (station : Station) :
    GivesOnly (Snapshot.KeepsLimits now limits)
      (Snapshot.ofStation stamp source limits station) := by
  refine GivesOnly.last fun parameters => ?_
  refine GivesOnly.bind (GivesOnly.mapM (givesOnly_ofParameter hsource station) parameters) ?_
  exact fun parts hparts => GivesOnly.pure (keepsLimits_join hparts)

/-- What is collected keeps the limits of its queries. -/
theorem givesOnly_collect (hsource : source.KeepsLimits now) :
    GivesOnly (Snapshot.KeepsLimits now limits) (Snapshot.collect stamp source region limits) := by
  refine GivesOnly.last fun listed => GivesOnly.last fun stations => ?_
  refine GivesOnly.bind (GivesOnly.mapM (givesOnly_ofStation hsource) stations) ?_
  exact fun parts hparts => GivesOnly.pure (keepsLimits_join hparts)

/-! ### Storing -/

variable [Watched (StateM σ)] {store after : Store} {snapshot : Snapshot}
  {counts : Snapshot.Counts}

theorem take_fst (state : σ) :
    (Snapshot.take stamp source region limits store state).1 =
      settle stamp store ((Snapshot.collect stamp source region limits).run state).1 := by
  have hbind {α β : Type} (work : StateM σ α) (next : α → StateM σ β) :
      (work >>= next) state = next (work state).1 (work state).2 := rfl
  rw [Snapshot.take, hbind]
  cases ((Snapshot.collect stamp source region limits).run state).1 with
  | error failure => rfl
  | ok snapshot =>
      dsimp only [settle]
      generalize snapshot.store stamp store = stored
      obtain ⟨outcome, after⟩ := stored
      cases outcome with
      | error failure => rfl
      | ok counts => rfl

/-- A snapshot that is taken has been collected, and then stored as a whole. -/
theorem exists_collect_of_take {state : σ}
    (htaken : (Snapshot.take stamp source region limits store state).1 = (.ok counts, after)) :
    ∃ snapshot, ((Snapshot.collect stamp source region limits).run state).1 = .ok snapshot ∧
      counts = countsOf snapshot ∧ OverriddenBy snapshot store after := by
  rw [take_fst] at htaken
  cases hcollected : ((Snapshot.collect stamp source region limits).run state).1 with
  | error failure =>
      rw [hcollected] at htaken
      cases htaken
  | ok snapshot =>
      rw [hcollected] at htaken
      exact ⟨snapshot, rfl, overriddenBy_of_store htaken⟩

end

/-! ### Deleting twice -/

section

variable {first second cutoff : Moment} (store : Store)

/-- The later one of two moments. -/
def laterOf (first second : Moment) : Moment :=
  if first.instant ≤ second.instant then second else first

theorem instant_laterOf (first second : Moment) :
    (laterOf first second).instant = max first.instant second.instant := by
  unfold laterOf
  split
  · exact (max_eq_right ‹_›).symm
  · exact (max_eq_left (by omega)).symm

theorem hasUtc_laterOf (hfirst : HasUtc first) (hsecond : HasUtc second) :
    HasUtc (laterOf first second) := by
  unfold laterOf
  split
  · exact hsecond
  · exact hfirst

/-- The measurements before a cutoff are deleted and counted. -/
theorem deleteOlderThan_measurements (hutc : HasUtc cutoff) :
    deleteOlderThan MeasurementRecord cutoff store =
      (.ok (store.measurements.countP fun row => row.timestamp.instant < cutoff.instant),
        { store with
          measurements := store.measurements.filter fun row =>
            cutoff.instant ≤ row.timestamp.instant }) := by
  have hbefore : (fun row : MeasurementRecord => !isSince cutoff.instant row) =
      fun row => decide (row.timestamp.instant < cutoff.instant) := by
    funext row
    simp only [isSince, Record.age, ← decide_not, Int.not_le]
  rw [deleteOlderThan_of_hasUtc MeasurementRecord store hutc, hbefore]
  rfl

theorem countP_before (first second : Int) (rows : List MeasurementRecord) :
    (rows.countP fun row => row.timestamp.instant < first) +
        ((rows.filter fun row => first ≤ row.timestamp.instant).countP fun row =>
          row.timestamp.instant < second) =
      rows.countP fun row => row.timestamp.instant < max first second := by
  induction rows with
  | nil => rfl
  | cons row rest ih =>
      by_cases hbefore : row.timestamp.instant < first
      · have hmax : row.timestamp.instant < max first second := lt_max_of_lt_left hbefore
        have hnot : ¬first ≤ row.timestamp.instant := by omega
        simp only [List.countP_cons, List.filter_cons, hbefore, hmax, hnot, decide_true,
          decide_false, if_true, Bool.false_eq_true, if_false]
        omega
      · have hmax : row.timestamp.instant < max first second ↔ row.timestamp.instant < second := by
          omega
        have hsince : first ≤ row.timestamp.instant := by omega
        simp only [List.countP_cons, List.filter_cons, hbefore, hmax, hsince, decide_true,
          decide_false, if_true, Bool.false_eq_true, if_false]
        omega

/-- Two cutoffs one after the other delete what the later one deletes. -/
theorem deleteOlderThan_twice (hfirst : HasUtc first) (hsecond : HasUtc second) :
    (do
      let count ← deleteOlderThan MeasurementRecord first
      let others ← deleteOlderThan MeasurementRecord second
      pure (count + others) : Storing Nat) store =
        deleteOlderThan MeasurementRecord (laterOf first second) store := by
  simp only [storing_bind_apply, deleteOlderThan_measurements _ hfirst,
    deleteOlderThan_measurements _ hsecond,
    deleteOlderThan_measurements _ (hasUtc_laterOf hfirst hsecond), instant_laterOf]
  have hsince (row : MeasurementRecord) :
      (decide (second.instant ≤ row.timestamp.instant) &&
          decide (first.instant ≤ row.timestamp.instant)) =
        decide (max first.instant second.instant ≤ row.timestamp.instant) := by
    rw [← Bool.decide_and, decide_eq_decide, max_le_iff, and_comm]
  rw [← countP_before, List.filter_filter]
  simp only [hsince]
  rfl

end

/-! ### Purging after a snapshot -/

section

variable {now : Moment} {limits : Limits} {age retention : Number} {store after : Store}
  {snapshot : Snapshot}

/-- A row that is not before the cutoff of the retention stays. -/
theorem find?_purged {key : String} {row : MeasurementRecord}
    (hfind : Rows.find? key store.measurements = some row)
    (hsince : ∀ cutoff, now.daysBefore retention = .ok cutoff →
      cutoff.instant ≤ row.timestamp.instant) :
    Rows.find? key (purged now retention store).2.measurements = some row := by
  unfold purged
  cases hcutoff : now.daysBefore retention with
  | error failure => exact hfind
  | ok cutoff =>
      dsimp only
      by_cases hutc : HasUtc cutoff
      · rw [deleteOlderThan_measurements store hutc]
        exact Rows.find?_filter hfind (decide_eq_true (hsince cutoff hcutoff))
      · rw [deleteOlderThan_of_not_hasUtc MeasurementRecord store hutc]
        exact hfind

/-- What a snapshot stores survives a purge with a retention no shorter than its age limit. -/
theorem exists_find?_purged (hkeeps : snapshot.KeepsLimits now limits)
    (hstored : OverriddenBy snapshot store after) (hage : limits.maxAgeDays = some age)
    (hle : age.le retention = true) {record : MeasurementRecord}
    (hrecord : record ∈ snapshot.measurements) :
    ∃ row, Rows.find? record.key after.measurements = some row ∧
      Rows.find? record.key (purged now retention after).2.measurements = some row := by
  have hkey : Record.key record ∈ snapshot.measurements.reverse.map Record.key :=
    List.mem_map_of_mem (List.mem_reverse.mpr hrecord)
  -- Of the records with one key the last is the one that is stored.
  obtain ⟨last, hlast⟩ := Rows.exists_find? hkey
  obtain ⟨row, hrow, hcontent⟩ := hstored.measurements.saved hlast
  refine ⟨row, hrow, find?_purged hrow fun cutoff hcutoff => ?_⟩
  have hmem := List.mem_reverse.mp (Rows.mem_of_find? hlast)
  obtain ⟨hnaive, hreach⟩ := hkeeps last hmem
  obtain ⟨oldest, holdest, hreached⟩ := hreach age hage
  rw [(MeasurementRecord.isKept_of_content hcontent).timestamp, unmarked_of_naive hnaive]
  exact (Moment.instant_daysBefore_le hle holdest hcutoff).trans hreached

end

/-! ### Retention -/

/-- A cutoff with a counterpart in the calendar on UTC deletes exactly the measurements before it
and counts them, any other deletes none and fails; two cutoffs one after the other, in either order,
delete what the later one deletes.  And what a provider's snapshot stores is there after a purge at
the time of the provider, if the retention is no shorter than the age limit of the snapshot. -/
theorem retention_agrees (store : Store) :
    (∀ cutoff : Moment,
      deleteOlderThan MeasurementRecord cutoff store =
        if HasUtc cutoff then
          (.ok (store.measurements.countP fun row => row.timestamp.instant < cutoff.instant),
            { store with
              measurements := store.measurements.filter fun row =>
                cutoff.instant ≤ row.timestamp.instant })
        else (.error (.number .dateOutOfRange), store)) ∧
      (∀ first second : Moment, HasUtc first → HasUtc second →
        (do
          let count ← deleteOlderThan MeasurementRecord first
          let others ← deleteOlderThan MeasurementRecord second
          pure (count + others) : Storing Nat) store =
            deleteOlderThan MeasurementRecord (laterOf first second) store) ∧
      ∀ {τ : Type} [LE τ] [DecidableLE τ] (now : Moment) (hasKey : Bool) (pages : Nat)
        (points : List Station) (offered : List OpenMeteo.Variable)
        (fetch : Request → Fetching τ Json) (stamp : Moment) (region : Option Region)
        (limits : Limits) (age retention : Number) (after : Store) (counts : Snapshot.Counts)
        (session later : Session τ),
        ∀ source ∈ [Gios.source now pages, OpenAq.source now hasKey pages,
            OpenMeteo.source now points offered],
          limits.maxAgeDays = some age → age.le retention = true →
            (Snapshot.take stamp (source.carried fetch) region limits store session).1 =
                (.ok counts, after) →
              let left := ((purge now retention after : StateM (Session τ) _) later).1.2
              ∃ snapshot,
                ((Snapshot.collect stamp (source.carried fetch) region limits).run session).1 =
                    .ok snapshot ∧
                  counts = countsOf snapshot ∧
                  ∀ record ∈ snapshot.measurements, ∃ row,
                    Rows.find? record.key after.measurements = some row ∧
                      Rows.find? record.key left.measurements = some row := by
  refine ⟨fun cutoff => ?_, fun first second hfirst hsecond => ?_, ?_⟩
  · split
    · exact deleteOlderThan_measurements store ‹_›
    · exact deleteOlderThan_of_not_hasUtc MeasurementRecord store ‹_›
  · exact deleteOlderThan_twice store hfirst hsecond
  · intro τ _ _ now hasKey pages points offered fetch stamp region limits age retention after counts
      session later source hsource hage hle htaken left
    obtain ⟨snapshot, hcollected, hcounts, hstored⟩ := exists_collect_of_take htaken
    have hleft : left = (purged now retention after).2 :=
      congrArg Prod.snd (purge_apply now retention after later)
    have hkeeps := givesOnly_collect (Source.providers_keepsLimits hsource fetch) session snapshot
      hcollected
    refine ⟨snapshot, hcollected, hcounts, fun record hrecord => ?_⟩
    rw [hleft]
    exact exists_find?_purged hkeeps hstored hage hle hrecord

/-- A payload with a station, its sensor and a reading of the sensor. -/
def smallPayload : Json :=
  .object [("Lista stacji pomiarowych", .list [.object [("Identyfikator stacji", .int 1)]]),
    ("totalPages", .int 1),
    ("Lista stanowisk pomiarowych dla podanej stacji",
      .list [.object [("Identyfikator stanowiska", .int 3), ("Wskaźnik - kod", .text "PM10")]]),
    ("Lista danych pomiarowych",
      .list [.object [("Data", .text "2025-06-01 12:00:00"), ("Wartość", .int 5)]])]

/-- The last second before the noon after the reading. -/
def beforeNoon : Moment := ⟨juneNoon.wall + 86399000000, some 0⟩

/-- A snapshot on the next day. -/
def nextDayTaken : (Except Failure Snapshot.Counts × Store) × Session ℤ :=
  Snapshot.take beforeNoon
    ((Gios.source beforeNoon 5).carried (Source.hasty.fetch (.constantly smallPayload))) none
    ⟨some 100, some (.whole 1)⟩ .empty (Session.start 0)

theorem retention_agrees_beforeNoon :
    (HasUtc juneNoon ∧ HasUtc beforeNoon ∧
      (do
        let count ← deleteOlderThan MeasurementRecord beforeNoon
        let others ← deleteOlderThan MeasurementRecord juneNoon
        pure (count + others) : Storing Nat) nextDayTaken.1.2 =
          deleteOlderThan MeasurementRecord beforeNoon nextDayTaken.1.2) ∧
      (Number.whole 1).le (.whole 1) = true ∧ nextDayTaken.1.1.toOption = some ⟨1, 1, 1⟩ ∧
      let left := ((purge beforeNoon (.whole 1) nextDayTaken.1.2 : StateM (Session ℤ) _)
        (Session.start 0)).1.2
      ∃ key row, Rows.find? key nextDayTaken.1.2.measurements = some row ∧
        Rows.find? key left.measurements = some row := by
  obtain ⟨-, htwice, -⟩ := retention_agrees nextDayTaken.1.2
  obtain ⟨-, -, hpurge⟩ := retention_agrees .empty
  have hcounts : nextDayTaken.1.1.toOption = some ⟨1, 1, 1⟩ := by decide +kernel
  refine ⟨⟨by decide, by decide, ?_⟩, by decide, hcounts, ?_⟩
  · exact htwice beforeNoon juneNoon (by decide) (by decide)
  · cases houtcome : nextDayTaken.1.1 with
    | error failure =>
        rw [houtcome] at hcounts
        cases hcounts
    | ok counts =>
        rw [houtcome] at hcounts
        obtain rfl := Option.some.inj hcounts
        obtain ⟨snapshot, -, hsame, hkept⟩ := hpurge beforeNoon true 5 [] []
          (Source.hasty.fetch (.constantly smallPayload)) beforeNoon none
          ⟨some 100, some (.whole 1)⟩ (.whole 1) (.whole 1) nextDayTaken.1.2 ⟨1, 1, 1⟩
          (Session.start 0) (Session.start 0) (Gios.source beforeNoon 5) List.mem_cons_self rfl
          (by decide) (Prod.ext houtcome rfl)
        have hlength : snapshot.measurements.length = 1 :=
          (congrArg Snapshot.Counts.measurements hsame).symm
        obtain ⟨record, hrecord⟩ := List.length_eq_one_iff.mp hlength
        obtain ⟨row, hrow, hleft⟩ := hkept record (by rw [hrecord]; exact List.mem_cons_self)
        exact ⟨record.key, row, hrow, hleft⟩

/-- The last second of year 9999, on a clock behind UTC, deletes nothing, and neither does it count
the rows that are older. -/
theorem deleteOlderThan_yearsEnd :
    let deleted := deleteOlderThan MeasurementRecord yearsEnd nextDayTaken.1.2
    (∀ row ∈ nextDayTaken.1.2.measurements, row.timestamp.instant < yearsEnd.instant) ∧
      nextDayTaken.1.2.measurements.length = 1 ∧ deleted.1.isOk = false ∧
      deleted.2.measurements.length = 1 := by
  decide +kernel

end Store

end AirQuality
