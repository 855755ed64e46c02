import AirQuality.Proofs.Store.Plain

/-!
# A snapshot is stored whole or not at all

Nothing is written before the last call to a source, so a snapshot that a call cuts short leaves the
store as it was.  If nothing goes wrong the rows are those from before, overridden key by key by the
records of what the source answered.  A second snapshot of the same answers changes nothing but
moments.
-/

namespace AirQuality.Store

open Outcome
open Time (Moment)

/-! ### Storing -/

/-- The rows of a store with those of a snapshot in their places. -/
structure OverriddenBy (snapshot : Snapshot) (before after : Store) : Prop where
  stations : Rows.Overridden snapshot.stations before.stations after.stations
  parameters : Rows.Overridden snapshot.parameters before.parameters after.parameters
  measurements : Rows.Overridden snapshot.measurements before.measurements after.measurements

theorem overriddenBy_empty (store : Store) : OverriddenBy .empty store store :=
  ⟨Rows.overridden_nil _, Rows.overridden_nil _, Rows.overridden_nil _⟩

/-- How much of a snapshot is saved when storing it stops: the kinds of records are saved one after
another. -/
inductive SavedPart (snapshot : Snapshot) : Snapshot → Prop where
  | nothing : SavedPart snapshot .empty
  | stations : SavedPart snapshot ⟨snapshot.stations, [], []⟩
  | parameters : SavedPart snapshot ⟨snapshot.stations, snapshot.parameters, []⟩
  | whole : SavedPart snapshot snapshot

def countsOf (snapshot : Snapshot) : Snapshot.Counts :=
  ⟨snapshot.stations.length, snapshot.parameters.length, snapshot.measurements.length⟩

/-- A step that changes the store, and the steps after it unless it fails. -/
theorem storing_bind_apply {α β : Type} (work : Storing α) (next : α → Storing β) (store : Store) :
    (work >>= next) store =
      match (work store).1 with
      | .ok value => next value (work store).2
      | .error failure => (.error failure, (work store).2) := by
  change ExceptT.bindCont next (work store).1 (work store).2 = _
  cases (work store).1 with
  | ok value => rfl
  | error failure => rfl

theorem saveAll_apply {ρ : Type} [Shelf ρ] (now : Moment) (records : List ρ) (store : Store) :
    saveAll now records store =
      match Rows.saveAll now records (Shelf.rows store) with
      | .ok rows => (.ok records.length, Shelf.setRows rows store)
      | .error failure => (.error failure, store) := rfl

variable (now : Moment) (snapshot : Snapshot) (store : Store)

/-- What storing comes to, kind by kind. -/
theorem store_apply : snapshot.store now store =
    match Rows.saveAll now snapshot.stations store.stations with
    | .error failure => (.error failure, store)
    | .ok stations =>
      match Rows.saveAll now snapshot.parameters store.parameters with
      | .error failure => (.error failure, { store with stations })
      | .ok parameters =>
        match Rows.saveAll now snapshot.measurements store.measurements with
        | .error failure => (.error failure, { store with stations, parameters })
        | .ok measurements => (.ok (countsOf snapshot), ⟨stations, parameters, measurements⟩) := by
  simp only [Snapshot.store, storing_bind_apply, saveAll_apply]
  dsimp only [Shelf.rows, Shelf.setRows]
  cases Rows.saveAll now snapshot.stations store.stations with
  | error failure => rfl
  | ok stations =>
      dsimp only
      cases Rows.saveAll now snapshot.parameters store.parameters with
      | error failure => rfl
      | ok parameters =>
          dsimp only
          cases Rows.saveAll now snapshot.measurements store.measurements with
          | error failure => rfl
          | ok measurements => rfl

/-- However storing ends, the rows are overridden by the kinds that were saved. -/
theorem overriddenBy_store :
    ∃ saved, SavedPart snapshot saved ∧ OverriddenBy saved store (snapshot.store now store).2 := by
  rw [store_apply]
  cases hstations : Rows.saveAll now snapshot.stations store.stations with
  | error failure => exact ⟨_, .nothing, overriddenBy_empty store⟩
  | ok stations =>
      have hfirst := Rows.overridden_of_saveAll hstations
      cases hparameters : Rows.saveAll now snapshot.parameters store.parameters with
      | error failure =>
          exact ⟨_, .stations, hfirst, Rows.overridden_nil _, Rows.overridden_nil _⟩
      | ok parameters =>
          have hsecond := Rows.overridden_of_saveAll hparameters
          cases hmeasurements : Rows.saveAll now snapshot.measurements store.measurements with
          | error failure => exact ⟨_, .parameters, hfirst, hsecond, Rows.overridden_nil _⟩
          | ok measurements =>
              exact ⟨_, .whole, hfirst, hsecond, Rows.overridden_of_saveAll hmeasurements⟩

variable {now snapshot store} in
/-- A snapshot that is stored without a failure is saved as a whole. -/
theorem overriddenBy_of_store {counts : Snapshot.Counts} {after : Store}
    (hstore : snapshot.store now store = (.ok counts, after)) :
    counts = countsOf snapshot ∧ OverriddenBy snapshot store after := by
  rw [store_apply] at hstore
  cases hstations : Rows.saveAll now snapshot.stations store.stations with
  | error failure =>
      rw [hstations] at hstore
      cases hstore
  | ok stations =>
      cases hparameters : Rows.saveAll now snapshot.parameters store.parameters with
      | error failure =>
          rw [hstations, hparameters] at hstore
          cases hstore
      | ok parameters =>
          cases hmeasurements : Rows.saveAll now snapshot.measurements store.measurements with
          | error failure =>
              rw [hstations, hparameters, hmeasurements] at hstore
              cases hstore
          | ok measurements =>
              rw [hstations, hparameters, hmeasurements] at hstore
              cases hstore
              exact ⟨rfl, Rows.overridden_of_saveAll hstations,
                Rows.overridden_of_saveAll hparameters, Rows.overridden_of_saveAll hmeasurements⟩

/-- A snapshot all of whose records are kept. -/
structure IsKept (snapshot : Snapshot) : Prop where
  stations : ∀ record ∈ snapshot.stations, ∃ row, Rows.content record = .ok row
  parameters : ∀ record ∈ snapshot.parameters, ∃ row, Rows.content record = .ok row
  measurements : ∀ record ∈ snapshot.measurements, ∃ row, Rows.content record = .ok row

variable {snapshot} in
theorem IsKept.exists_store (hkept : IsKept snapshot) :
    ∃ after, snapshot.store now store = (.ok (countsOf snapshot), after) ∧
      OverriddenBy snapshot store after := by
  obtain ⟨stations, hstations⟩ := Rows.exists_saveAll now store.stations hkept.stations
  obtain ⟨parameters, hparameters⟩ := Rows.exists_saveAll now store.parameters hkept.parameters
  obtain ⟨measurements, hmeasurements⟩ :=
    Rows.exists_saveAll now store.measurements hkept.measurements
  refine ⟨⟨stations, parameters, measurements⟩, ?_, Rows.overridden_of_saveAll hstations,
    Rows.overridden_of_saveAll hparameters, Rows.overridden_of_saveAll hmeasurements⟩
  rw [store_apply, hstations, hparameters, hmeasurements]

/-! ### Storing again -/

/-- Rows that differ in their moments only. -/
def SameRows {ρ : Type} [Record ρ] [Refreshable ρ] (rows again : List ρ) : Prop :=
  again.map Record.key = rows.map Record.key ∧
    ∀ key, (Rows.find? key again).map Refreshable.undated =
      (Rows.find? key rows).map Refreshable.undated

structure SameButMoments (before after : Store) : Prop where
  stations : SameRows before.stations after.stations
  parameters : SameRows before.parameters after.parameters
  measurements : SameRows before.measurements after.measurements

/-- Snapshots that differ in their moments only. -/
structure Alike (snapshot other : Snapshot) : Prop where
  stations : other.stations.map Refreshable.undated = snapshot.stations.map Refreshable.undated
  parameters :
    other.parameters.map Refreshable.undated = snapshot.parameters.map Refreshable.undated
  measurements :
    other.measurements.map Refreshable.undated = snapshot.measurements.map Refreshable.undated

variable {now snapshot store}

theorem OverriddenBy.again {other : Snapshot} {after again : Store}
    (hfirst : OverriddenBy snapshot store after) (hsecond : OverriddenBy other after again)
    (halike : Alike snapshot other) : SameButMoments after again where
  stations := hfirst.stations.repeated hsecond.stations halike.stations
  parameters := hfirst.parameters.repeated hsecond.parameters halike.parameters
  measurements := hfirst.measurements.repeated hsecond.measurements halike.measurements

theorem Alike.countsOf_eq {other : Snapshot} (halike : Alike snapshot other) :
    countsOf other = countsOf snapshot := by
  have hstations := congrArg List.length halike.stations
  have hparameters := congrArg List.length halike.parameters
  have hmeasurements := congrArg List.length halike.measurements
  simp only [List.length_map] at hstations hparameters hmeasurements
  simp only [countsOf, hstations, hparameters, hmeasurements]

/-- The same items read twice come to records that are the same but for their moments. -/
theorem map_undated_mapM {α ρ : Type} [Record ρ] [Refreshable ρ] {read again : α → Except Failure ρ}
    (hsame : ∀ item, Refreshable.undated <$> read item = Refreshable.undated <$> again item)
    {items : List α} {records others : List ρ} (hread : items.mapM read = .ok records)
    (hagain : items.mapM again = .ok others) :
    others.map Refreshable.undated = records.map Refreshable.undated := by
  induction items generalizing records others with
  | nil =>
      cases hread
      cases hagain
      rfl
  | cons item rest ih =>
      obtain ⟨record, records, hrecord, hrecords, rfl⟩ := mapM_cons_eq_ok hread
      obtain ⟨other, others, hother, hothers, rfl⟩ := mapM_cons_eq_ok hagain
      have hitem := hsame item
      rw [hrecord, hother] at hitem
      rw [List.map_cons, List.map_cons, ih hrecords hothers, Except.ok.inj hitem]

variable {limits : Limits} {visited : List Station} {offered : List (String × Parameter)}
  {told : List Answer}

theorem Describes.alike {now' : Moment} {other : Snapshot}
    (hfirst : Describes now limits visited offered told snapshot)
    (hsecond : Describes now' limits visited offered told other) : Alike snapshot other where
  stations := by
    rw [hfirst.stations, hsecond.stations, List.map_map, List.map_map]
    rfl
  parameters := by
    apply map_undated_mapM _ hfirst.parameters hsecond.parameters
    intro listed
    simp only [parameterRecord, ParameterRecord.ofParameter, Refreshable.undated, map_bind,
      map_pure]
  measurements := by
    apply map_undated_mapM _ hfirst.measurements hsecond.measurements
    intro listed
    simp only [measurementRecord, MeasurementRecord.ofMeasurement, Refreshable.undated, map_bind,
      map_pure]

/-! ### Taking a snapshot -/

variable {region : Option Region} {result : Except Failure Snapshot}

/-- A call that fails is the failure of it all. -/
theorem Collected.failed (hcollected : Collected now limits region told result) {answer : Answer}
    {failure : Failure} (hmem : answer ∈ told) (hfailure : answer.failure? = some failure) :
    result = .error failure := by
  cases hcollected with
  | unlisted other =>
      obtain rfl := List.mem_singleton.mp hmem
      rw [Option.some.inj hfailure]
  | unplaced listed other hwanted =>
      obtain rfl := List.mem_singleton.mp hmem
      cases hfailure
  | visited listed stations later _ hwanted haccount =>
      cases List.mem_cons.mp hmem with
      | inl hfirst =>
          rw [hfirst] at hfailure
          cases hfailure
      | inr hlater => exact haccount.failed hlater hfailure

/-- Plain answers are those of the stations in the region. -/
theorem Collected.visited_of_isPlain (hcollected : Collected now limits region told result)
    (hplain : ∀ answer ∈ told, answer.IsPlain) :
    ∃ listed later, told = .stations (.ok listed) :: later ∧
      Account now limits (stationsIn region listed) (later.flatMap Answer.parametersListed) later
        result := by
  cases hcollected with
  | unlisted failure => exact (hplain _ List.mem_cons_self).elim
  | unplaced listed failure hwanted =>
      rw [wanted_of_isPlain region (hplain _ List.mem_cons_self)] at hwanted
      cases hwanted
  | visited listed stations later _ hwanted haccount =>
      rw [wanted_of_isPlain region (hplain _ List.mem_cons_self)] at hwanted
      obtain rfl := Except.ok.inj hwanted
      exact ⟨listed, later, rfl, haccount⟩

/-- Nothing but a measurement off the calendar keeps plain answers from being a snapshot. -/
theorem Account.exists_unplaced_time (haccount : Account now limits visited offered told result)
    (hanswers : ∀ answer ∈ told, answer.IsPlain) (hoffered : ∀ listed ∈ offered, listed.2.IsPlain)
    {failure : Failure} (herror : result = .error failure) :
    failure = .number .dateOutOfRange ∧
      ∃ listed ∈ told.flatMap Answer.measurementsListed, ¬HasUtc listed.2.timestamp := by
  rcases haccount.blame herror with ⟨answer, hmem, hfailure⟩ | ⟨listed, hmem, hrecord⟩ |
    ⟨listed, hmem, hrecord⟩
  · rw [(hanswers answer hmem).failure?_eq_none] at hfailure
    cases hfailure
  · obtain ⟨record, hrecord'⟩ := exists_parameterRecord (hoffered listed hmem) now
    rw [hrecord] at hrecord'
    cases hrecord'
  · have hutc : ¬HasUtc listed.2.timestamp := by
      intro hutc
      obtain ⟨record, hrecord'⟩ := (exists_ofMeasurement_iff now listed.1 listed.2).mpr hutc
      rw [measurementRecord, hrecord'] at hrecord
      cases hrecord
    refine ⟨?_, listed, hmem, hutc⟩
    rw [measurementRecord, MeasurementRecord.ofMeasurement, onNaiveUtc_of_not_hasUtc hutc,
      error_bind] at hrecord
    exact (Except.error.inj hrecord).symm

theorem Describes.isKept (hdescribes : Describes now limits visited offered told snapshot)
    (hvisited : ∀ station ∈ visited, station.IsPlain)
    (hoffered : ∀ listed ∈ offered, listed.2.IsPlain)
    (hanswers : ∀ answer ∈ told, answer.IsPlain) : IsKept snapshot where
  stations := by
    rw [hdescribes.stations]
    intro record hrecord
    obtain ⟨station, hstation, rfl⟩ := List.mem_map.mp hrecord
    exact exists_content_station (hvisited station hstation) now
  parameters := by
    intro record hrecord
    obtain ⟨listed, hlisted, hread⟩ := exists_mem_of_mapM hdescribes.parameters hrecord
    exact exists_content_parameter (hoffered listed hlisted) hread
  measurements := by
    intro record hrecord
    obtain ⟨listed, hlisted, hread⟩ := exists_mem_of_mapM hdescribes.measurements hrecord
    exact exists_content_measurement (Measurement.isFinite_of_mem hanswers hlisted) hread

/-- A snapshot of plain answers describes them and is kept. -/
theorem Collected.describes (hcollected : Collected now limits region told result)
    (hplain : ∀ answer ∈ told, answer.IsPlain)
    (hutc : ∀ listed ∈ told.flatMap Answer.measurementsListed, HasUtc listed.2.timestamp) :
    ∃ listed later snapshot, told = .stations (.ok listed) :: later ∧ result = .ok snapshot ∧
      Describes now limits (stationsIn region listed) (later.flatMap Answer.parametersListed) later
        snapshot ∧
      IsKept snapshot := by
  classical
  obtain ⟨listed, later, rfl, haccount⟩ := hcollected.visited_of_isPlain hplain
  have hlater : ∀ answer ∈ later, answer.IsPlain :=
    fun answer hmem => hplain answer (List.mem_cons_of_mem _ hmem)
  have hoffered : ∀ offer ∈ later.flatMap Answer.parametersListed, offer.2.IsPlain :=
    fun offer hmem => Parameter.isPlain_of_mem hlater hmem
  cases hresult : result with
  | error failure =>
      obtain ⟨-, offer, hmem, hnone⟩ := haccount.exists_unplaced_time hlater hoffered hresult
      exact absurd (hutc offer (List.mem_append_right _ hmem)) hnone
  | ok snapshot =>
      have hdescribes := haccount.done hresult
      refine ⟨listed, later, snapshot, rfl, rfl, hdescribes, hdescribes.isKept ?_ hoffered hlater⟩
      intro station hstation
      exact hplain _ List.mem_cons_self station (List.mem_of_mem_filter hstation)

/-- Plain answers with a measurement off the calendar are no snapshot. -/
theorem Collected.dateOutOfRange (hcollected : Collected now limits region told result)
    (hplain : ∀ answer ∈ told, answer.IsPlain)
    (hutc : ∃ listed ∈ told.flatMap Answer.measurementsListed, ¬HasUtc listed.2.timestamp) :
    result = .error (.number .dateOutOfRange) := by
  obtain ⟨listed, later, rfl, haccount⟩ := hcollected.visited_of_isPlain hplain
  have hlater : ∀ answer ∈ later, answer.IsPlain :=
    fun answer hmem => hplain answer (List.mem_cons_of_mem _ hmem)
  cases hresult : result with
  | error failure =>
      obtain ⟨rfl, -⟩ := haccount.exists_unplaced_time hlater
        (fun offer hmem => Parameter.isPlain_of_mem hlater hmem) hresult
      rfl
  | ok snapshot =>
      obtain ⟨offer, hmem, hnone⟩ := hutc
      obtain ⟨record, hrecord⟩ := exists_ok_of_mem (haccount.done hresult).measurements hmem
      exact absurd ((exists_ofMeasurement_iff now offer.1 offer.2).mp ⟨record, hrecord⟩) hnone

/-- What storing what was collected comes to. -/
def settle (now : Moment) (store : Store) :
    Except Failure Snapshot → Except Failure Snapshot.Counts × Store
  | .error failure => (.error failure, store)
  | .ok snapshot => snapshot.store now store

variable {ω : Type}

/-- Storing makes no calls. -/
theorem take_apply (now : Moment) (conduct : Conduct ω) (region : Option Region) (limits : Limits)
    (store : Store) (stage : Stage ω) :
    let collected := (Snapshot.collect now conduct.source region limits).run stage
    let taken := Snapshot.take now conduct.source region limits store stage
    taken.1 = settle now store collected.1 ∧ collected.2.Alike taken.2 := by
  dsimp only
  rw [Snapshot.take, Stage.bind_apply]
  cases ((Snapshot.collect now conduct.source region limits).run stage).1 with
  | error failure => exact ⟨rfl, Stage.Alike.refl _⟩
  | ok snapshot =>
      dsimp only [settle]
      generalize snapshot.store now store = stored
      obtain ⟨outcome, after⟩ := stored
      cases outcome with
      | error failure => exact ⟨rfl, Stage.Alike.refl _⟩
      | ok counts => exact ⟨rfl, rfl, rfl, rfl⟩

theorem take_relates (now : Moment) (conduct : Conduct ω) (region : Option Region)
    (limits : Limits) (store : Store) (stage : Stage ω) :
    ∃ told result,
      conduct.Told stage (Snapshot.take now conduct.source region limits store stage).2 told ∧
      Collected now limits region told result ∧
      (Snapshot.take now conduct.source region limits store stage).1 = settle now store result := by
  obtain ⟨told, htold, hcollected⟩ := collect_relates conduct now limits region stage
  obtain ⟨htaken, halike⟩ := take_apply now conduct region limits store stage
  exact ⟨told, _, htold.of_alike halike, hcollected, htaken⟩

/-- A snapshot that a call cuts short writes nothing, whichever call it is, and neither does one
with a measurement that is not in the calendar on UTC.  If all answers are plain, the rows are those
from before, overridden by the records of the stations in the region, their parameters and their
measurements; and a second snapshot of the same answers, whenever it is taken, changes no row. -/
theorem take_allOrNothing (now : Moment) (conduct : Conduct ω) (region : Option Region)
    (limits : Limits) (store : Store) (stage : Stage ω) :
    let taken := Snapshot.take now conduct.source region limits store stage
    ∃ told, conduct.Told stage taken.2 told ∧
      (∀ answer ∈ told, ∀ failure, answer.failure? = some failure →
        taken.1 = (.error failure, store)) ∧
      ((∀ answer ∈ told, answer.IsPlain) →
        ((∃ listed ∈ told.flatMap Answer.measurementsListed, ¬HasUtc listed.2.timestamp) →
          taken.1 = (.error (.number .dateOutOfRange), store)) ∧
        ((∀ listed ∈ told.flatMap Answer.measurementsListed, HasUtc listed.2.timestamp) →
          ∃ listed later snapshot after, told = .stations (.ok listed) :: later ∧
            Describes now limits (stationsIn region listed)
              (later.flatMap Answer.parametersListed) later snapshot ∧
            taken.1 = (.ok (countsOf snapshot), after) ∧ OverriddenBy snapshot store after ∧
            ∀ {ω' : Type} (now' : Moment) (conduct' : Conduct ω') (stage' : Stage ω'),
              let again := Snapshot.take now' conduct'.source region limits after stage'
              conduct'.Told stage' again.2 told →
                again.1.1 = .ok (countsOf snapshot) ∧ SameButMoments after again.1.2)) := by
  obtain ⟨told, result, htold, hcollected, htaken⟩ :=
    take_relates now conduct region limits store stage
  refine ⟨told, htold, ?_, fun hplain => ⟨?_, ?_⟩⟩
  · intro answer hmem failure hfailure
    rw [htaken, hcollected.failed hmem hfailure]
    rfl
  · intro hnone
    rw [htaken, hcollected.dateOutOfRange hplain hnone]
    rfl
  · intro hutc
    obtain ⟨listed, later, snapshot, hlisted, rfl, hdescribes, hkept⟩ :=
      hcollected.describes hplain hutc
    obtain ⟨after, hstore, hoverridden⟩ := hkept.exists_store now store
    refine ⟨listed, later, snapshot, after, hlisted, hdescribes, htaken.trans hstore, hoverridden,
      ?_⟩
    intro ω' now' conduct' stage' again hagain
    obtain ⟨told', result', htold', hcollected', htaken'⟩ :=
      take_relates now' conduct' region limits after stage'
    obtain rfl := hagain.unique htold'
    obtain ⟨listed', later', other, hlisted', rfl, hdescribes', hkept'⟩ :=
      hcollected'.describes hplain hutc
    obtain ⟨hsame, rfl⟩ := List.cons.inj (hlisted.symm.trans hlisted')
    obtain rfl := Except.ok.inj (Answer.stations.inj hsame)
    have halike := hdescribes.alike hdescribes'
    obtain ⟨last, hstore', hoverridden'⟩ := hkept'.exists_store now' after
    have hlast : again.1 = (.ok (countsOf other), last) := htaken'.trans hstore'
    rw [hlast, halike.countsOf_eq]
    exact ⟨rfl, hoverridden.again hoverridden' halike⟩

/-! ### A source with one station -/

/-- A source with a station and a parameter, and what it answers for measurements. -/
def onePlace (measurements : Except Failure (List Measurement)) : Conduct Unit where
  name := "GIOS"
  stations _ := ⟨.ok [⟨"1", .null, .null, .null, "GIOS"⟩], (), false⟩
  parameters _ _ := ⟨.ok [dustParameter "3"], (), false⟩
  measurements _ _ := ⟨measurements, (), false⟩

def onePlaceTold (measurements : Except Failure (List Measurement)) : List Answer :=
  [.stations (.ok [⟨"1", .null, .null, .null, "GIOS"⟩]), .parameters "1" (.ok [dustParameter "3"]),
    .measurements ⟨"1", "3", ⟨none, none⟩, some "PM10"⟩ measurements]

/-- Its snapshot, stored among the rows that are given. -/
def onePlaceTaken (measurements : Except Failure (List Measurement)) (store : Store) :
    (Except Failure Snapshot.Counts × Store) × Stage Unit :=
  Snapshot.take juneNoon (onePlace measurements).source none ⟨none, none⟩ store (.fresh ())

/-- The last second of year 9999, on a clock ten hours behind UTC. -/
def yearsEnd : Moment := ⟨Time.lastWall, some (-36000000000)⟩

theorem told_onePlace {measurements : Except Failure (List Measurement)}
    (hcalls : ((Snapshot.collect juneNoon (onePlace measurements).source none ⟨none, none⟩).run
      (.fresh ())).2.calls.map (·.call) = (onePlaceTold measurements).map Answer.call)
    (store : Store) :
    (onePlace measurements).Told (.fresh ()) (onePlaceTaken measurements store).2
      (onePlaceTold measurements) := by
  have htold : (onePlace measurements).Told (.fresh ()) ((Snapshot.collect juneNoon
      (onePlace measurements).source none ⟨none, none⟩).run (.fresh ())).2
        (onePlaceTold measurements) := ⟨hcalls, rfl, rfl⟩
  exact htold.of_alike (take_apply juneNoon _ none _ store _).2

theorem isPlain_onePlaceTold (timestamp : Moment) :
    ∀ answer ∈ onePlaceTold (.ok [dust "1" timestamp]), answer.IsPlain := by
  have hone : (Json.float 1).IsFinite := ⟨1, rfl, by decide +kernel⟩
  have hstation : Station.IsPlain ⟨"1", .null, .null, .null, "GIOS"⟩ :=
    ⟨trivial, .inl rfl, .inl rfl⟩
  have hparameter : (dustParameter "3").IsPlain := ⟨trivial, trivial, trivial, trivial⟩
  simpa [onePlaceTold, Answer.IsPlain, dust] using ⟨hstation, hparameter, hone⟩

theorem take_allOrNothing_onePlace :
    (onePlaceTaken (.error .unfinished) .empty).1 = (.error .unfinished, .empty) ∧
      ∃ after, (onePlaceTaken (.ok [dust "1" juneNoon]) .empty).1 = (.ok ⟨1, 1, 1⟩, after) ∧
        SameButMoments after (onePlaceTaken (.ok [dust "1" juneNoon]) after).1.2 := by
  constructor
  · obtain ⟨told, htold, hfailed, -⟩ := take_allOrNothing juneNoon (onePlace (.error .unfinished))
      none ⟨none, none⟩ .empty (.fresh ())
    obtain rfl := htold.unique (told_onePlace rfl .empty)
    exact hfailed _ (List.mem_of_mem_getLast? rfl) .unfinished rfl
  · obtain ⟨told, htold, -, hstored⟩ := take_allOrNothing juneNoon
      (onePlace (.ok [dust "1" juneNoon])) none ⟨none, none⟩ .empty (.fresh ())
    obtain rfl := htold.unique (told_onePlace rfl .empty)
    have hutc : ∀ listed ∈ (onePlaceTold (.ok [dust "1" juneNoon])).flatMap
        Answer.measurementsListed, HasUtc listed.2.timestamp := by
      intro listed hlisted
      obtain rfl := List.mem_singleton.mp hlisted
      decide
    obtain ⟨listed, later, snapshot, after, -, -, htaken, -, hagain⟩ :=
      (hstored (isPlain_onePlaceTold juneNoon)).2 hutc
    have hcounts : (onePlaceTaken (.ok [dust "1" juneNoon]) .empty).1.1.toOption =
        some ⟨1, 1, 1⟩ := by decide +kernel
    have hcounted : countsOf snapshot = ⟨1, 1, 1⟩ := by
      unfold onePlaceTaken at hcounts
      rw [htaken] at hcounts
      exact Option.some.inj hcounts
    rw [hcounted] at htaken
    obtain ⟨-, hsame⟩ := hagain juneNoon (onePlace (.ok [dust "1" juneNoon])) (.fresh ())
      (told_onePlace rfl after)
    exact ⟨after, htaken, hsame⟩

/-- All answers are plain, but one measurement is off the calendar on UTC, and so the station that
is listed is not stored. -/
theorem take_allOrNothing_yearsEnd :
    (onePlace (.ok [dust "1" yearsEnd])).Told (.fresh ())
        (onePlaceTaken (.ok [dust "1" yearsEnd]) .empty).2
        (onePlaceTold (.ok [dust "1" yearsEnd])) ∧
      (∀ answer ∈ onePlaceTold (.ok [dust "1" yearsEnd]), answer.IsPlain) ∧
      (onePlaceTaken (.ok [dust "1" yearsEnd]) .empty).1.2.stations.length = 0 :=
  ⟨told_onePlace rfl .empty, isPlain_onePlaceTold yearsEnd, by decide +kernel⟩

end AirQuality.Store
