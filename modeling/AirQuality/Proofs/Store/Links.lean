import AirQuality.Proofs.Store.Purge
import AirQuality.Proofs.Store.Snapshot

/-!
# Rows that belong to others

Nothing in the store ties its rows together but their keys.  They stay tied all the same, because
stations are saved before their parameters and parameters before their measurements, wherever a
snapshot stops, and because nothing but measurements is ever deleted.
-/

namespace AirQuality

open Decimal (Number)
open Outcome
open Time (Moment)

namespace Store

/-! ### Linked records -/

/-- A station record under the key of its names. -/
structure StationRecord.IsNamed (record : StationRecord) (name place : String) : Prop where
  source : record.source = .text name
  stationId : record.stationId = .text place
  key : record.key = keyFor (.text name) (.text place)

/-- A parameter record under the key of its names. -/
structure ParameterRecord.IsNamed (record : ParameterRecord) (name place id : String) : Prop where
  source : record.source = .text name
  stationId : record.stationId = .text place
  key : record.key = keyFor (.text name) (.text place) (.text id)

/-- Each station is under the key of its names, and no source has a colon in its name. -/
def AreNamed (stations : List StationRecord) : Prop :=
  ∀ record ∈ stations, ∃ name place, colons name = 0 ∧ record.IsNamed name place

/-- Each parameter is under the key of its names, and its station is among those given. -/
def AreOf (stations : List StationRecord) (parameters : List ParameterRecord) : Prop :=
  ∀ record ∈ parameters, ∃ name place id, colons name = 0 ∧ record.IsNamed name place id ∧
    StationRecord.keyFor (.text name) (.text place) ∈ stations.map Record.key

/-- Each measurement has the key of a parameter and its time. -/
def AreReadingsOf (parameters : List ParameterRecord) (measurements : List MeasurementRecord) :
    Prop :=
  ∀ record ∈ measurements, ∃ key ∈ parameters.map Record.key,
    record.key = key ++ ":" ++ record.timestamp.iso

/-- Records that belong together, and whose times are kept as they are. -/
structure Linked (records : Snapshot) : Prop where
  stations : AreNamed records.stations
  parameters : AreOf records.stations records.parameters
  measurements : AreReadingsOf records.parameters records.measurements
  naive : ∀ record ∈ records.measurements, record.timestamp.offset = none

/-- The rows of a store belong together. -/
structure IsLinked (store : Store) : Prop where
  stations : AreNamed store.stations
  parameters : AreOf store.stations store.parameters
  measurements : AreReadingsOf store.parameters store.measurements

theorem isLinked_empty : IsLinked .empty := ⟨nofun, nofun, nofun⟩

section

variable {name place id : String}

theorem StationRecord.IsNamed.of_isKept {record row : StationRecord}
    (hnamed : record.IsNamed name place) (hkept : record.IsKept row) : row.IsNamed name place where
  source := by
    have htext := hkept.source
    rw [hnamed.source] at htext
    exact (Except.ok.inj htext).symm
  stationId := by
    have htext := hkept.stationId
    rw [hnamed.stationId] at htext
    exact (Except.ok.inj htext).symm
  key := hkept.key.trans hnamed.key

theorem ParameterRecord.IsNamed.of_isKept {record row : ParameterRecord}
    (hnamed : record.IsNamed name place id) (hkept : record.IsKept row) :
    row.IsNamed name place id where
  source := by
    have htext := hkept.source
    rw [hnamed.source] at htext
    exact (Except.ok.inj htext).symm
  stationId := by
    have htext := hkept.stationId
    rw [hnamed.stationId] at htext
    exact (Except.ok.inj htext).symm
  key := hkept.key.trans hnamed.key

end

/-! ### Steps -/

variable {store after : Store} {snapshot saved : Snapshot}

/-- Linked rows overridden by linked records are linked. -/
theorem IsLinked.override (hstore : IsLinked store) (hsaved : Linked saved)
    (hafter : OverriddenBy saved store after) : IsLinked after where
  stations row hrow := by
    rcases hafter.stations.mem hrow with hold | ⟨record, hrecord, -, hcontent⟩
    · exact hstore.stations row hold
    · obtain ⟨name, place, hname, hnamed⟩ := hsaved.stations record hrecord
      exact ⟨name, place, hname, hnamed.of_isKept (StationRecord.isKept_of_content hcontent)⟩
  parameters row hrow := by
    rcases hafter.parameters.mem hrow with hold | ⟨record, hrecord, -, hcontent⟩
    · obtain ⟨name, place, id, hname, hnamed, hstation⟩ := hstore.parameters row hold
      exact ⟨name, place, id, hname, hnamed, hafter.stations.key_mem hstation⟩
    · obtain ⟨name, place, id, hname, hnamed, hstation⟩ := hsaved.parameters record hrecord
      exact ⟨name, place, id, hname,
        hnamed.of_isKept (ParameterRecord.isKept_of_content hcontent),
        hafter.stations.key_mem_of_saved hstation⟩
  measurements row hrow := by
    rcases hafter.measurements.mem hrow with hold | ⟨record, hrecord, -, hcontent⟩
    · obtain ⟨key, hparameter, hkey⟩ := hstore.measurements row hold
      exact ⟨key, hafter.parameters.key_mem hparameter, hkey⟩
    · obtain ⟨key, hparameter, hkey⟩ := hsaved.measurements record hrecord
      have hkept := MeasurementRecord.isKept_of_content hcontent
      refine ⟨key, hafter.parameters.key_mem_of_saved hparameter, ?_⟩
      rw [hkept.key, hkept.timestamp, unmarked_of_naive (hsaved.naive record hrecord), hkey]

/-- What is saved of linked records is linked, because stations come first and measurements last. -/
theorem SavedPart.linked (hpart : SavedPart snapshot saved) (hlinked : Linked snapshot) :
    Linked saved := by
  cases hpart with
  | nothing => exact ⟨nofun, nofun, nofun, nofun⟩
  | stations => exact ⟨hlinked.stations, nofun, nofun, nofun⟩
  | parameters => exact ⟨hlinked.stations, hlinked.parameters, nofun, nofun⟩
  | whole => exact hlinked

theorem IsLinked.since (hstore : IsLinked store) (instant : Int) :
    IsLinked (since MeasurementRecord instant store) where
  stations := hstore.stations
  parameters := hstore.parameters
  measurements row hrow := hstore.measurements row (List.mem_of_mem_filter hrow)

theorem IsLinked.purged (hstore : IsLinked store) (now : Moment) (retention : Number) :
    IsLinked (purged now retention store).2 := by
  unfold Store.purged
  cases now.daysBefore retention with
  | error failure => exact hstore
  | ok cutoff =>
      dsimp only
      by_cases hutc : HasUtc cutoff
      · rw [deleteOlderThan_of_hasUtc MeasurementRecord store hutc]
        exact hstore.since cutoff.instant
      · rw [deleteOlderThan_of_not_hasUtc MeasurementRecord store hutc]
        exact hstore

end Store

/-! ### Honest sources -/

/-- Everything listed bears the name of the source, and measurements the station asked for. -/
def Answer.IsHonest (name : String) : Answer → Prop
  | stations (.ok listed) => ∀ station ∈ listed, station.source = name
  | parameters _ (.ok listed) => ∀ parameter ∈ listed, parameter.source = name
  | measurements query (.ok listed) =>
    ∀ measurement ∈ listed, measurement.source = name ∧ measurement.stationId = query.stationId
  | _ => True

/-- A source whose answers are honest in every world, and whose name has no colon. -/
structure Conduct.IsHonest {ω : Type} (conduct : Conduct ω) : Prop where
  name : Store.colons conduct.name = 0
  answers (world : ω) (call : Call) : (conduct.answer world call).IsHonest conduct.name

theorem Conduct.IsHonest.told {ω : Type} {conduct : Conduct ω} (hhonest : conduct.IsHonest)
    {stage after : Stage ω} {told : List Answer} (htold : conduct.Told stage after told) :
    ∀ answer ∈ told, answer.IsHonest conduct.name := by
  have hanswers (calls : List Call) (world : ω) :
      ∀ answer ∈ conduct.answers calls world, answer.IsHonest conduct.name := by
    induction calls generalizing world with
    | nil =>
        intro answer hmem
        cases hmem
    | cons call rest ih =>
        intro answer hmem
        cases List.mem_cons.mp hmem with
        | inl hfirst => exact hfirst ▸ hhonest.answers world call
        | inr hrest => exact ih _ answer hrest
  rw [htold.answers]
  exact hanswers _ _

namespace Store

variable {ω : Type}

section

variable {name : String} {told : List Answer} {now : Moment} {limits : Limits}
  {visited : List Station} {snapshot : Snapshot}

/-- A parameter that is listed bears the name of its source, and its station was asked. -/
theorem honest_parameter (htold : ∀ answer ∈ told, answer.IsHonest name)
    {listed : String × Parameter} (hmem : listed ∈ told.flatMap Answer.parametersListed) :
    listed.2.source = name ∧ listed.1 ∈ told.filterMap Answer.station? := by
  obtain ⟨answer, hanswer, hlisted⟩ := List.mem_flatMap.mp hmem
  have hhonest := htold answer hanswer
  cases answer with
  | stations outcome => cases hlisted
  | measurements query outcome => cases hlisted
  | parameters stationId outcome =>
      cases outcome with
      | error failure => cases hlisted
      | ok parameters =>
          obtain ⟨parameter, hparameter, rfl⟩ := List.mem_map.mp hlisted
          exact ⟨hhonest parameter hparameter, List.mem_filterMap.mpr ⟨_, hanswer, rfl⟩⟩

/-- A measurement that is listed bears the names of its source and the station asked for. -/
theorem honest_measurement (htold : ∀ answer ∈ told, answer.IsHonest name)
    {listed : String × Measurement} (hmem : listed ∈ told.flatMap Answer.measurementsListed) :
    listed.2.source = name ∧ ∃ query ∈ told.filterMap Answer.query?,
      query.stationId = listed.2.stationId ∧ query.parameterId = listed.1 := by
  obtain ⟨answer, hanswer, hlisted⟩ := List.mem_flatMap.mp hmem
  have hhonest := htold answer hanswer
  cases answer with
  | stations outcome => cases hlisted
  | parameters stationId outcome => cases hlisted
  | measurements query outcome =>
      cases outcome with
      | error failure => cases hlisted
      | ok measurements =>
          obtain ⟨measurement, hmeasurement, rfl⟩ := List.mem_map.mp hlisted
          obtain ⟨hsource, hstation⟩ := hhonest measurement hmeasurement
          exact ⟨hsource, query, List.mem_filterMap.mpr ⟨_, hanswer, rfl⟩, hstation.symm, rfl⟩

/-- The records of honest answers are linked. -/
theorem Describes.linked (hname : colons name = 0)
    (hvisited : ∀ station ∈ visited, station.source = name)
    (htold : ∀ answer ∈ told, answer.IsHonest name)
    (hdescribes : Describes now limits visited (told.flatMap Answer.parametersListed) told
      snapshot) : Linked snapshot where
  stations record hrecord := by
    rw [hdescribes.stations] at hrecord
    obtain ⟨station, hstation, rfl⟩ := List.mem_map.mp hrecord
    rw [← hvisited station hstation] at hname
    exact ⟨station.source, station.id, hname, rfl, rfl, rfl⟩
  parameters record hrecord := by
    obtain ⟨listed, hlisted, hread⟩ := exists_mem_of_mapM hdescribes.parameters hrecord
    obtain ⟨hsource, hasked⟩ := honest_parameter htold hlisted
    rw [hdescribes.asked] at hasked
    obtain ⟨station, hstation, hid⟩ := List.mem_map.mp hasked
    obtain ⟨key, -, hdone⟩ := bind_eq_ok hread
    obtain rfl := Except.ok.inj hdone
    refine ⟨listed.2.source, listed.1, listed.2.id, by rwa [hsource], ⟨rfl, rfl, rfl⟩, ?_⟩
    rw [hdescribes.stations, ← hid, hsource, ← hvisited station hstation]
    exact List.mem_map_of_mem (List.mem_map_of_mem hstation)
  measurements record hrecord := by
    obtain ⟨listed, hlisted, hread⟩ := exists_mem_of_mapM hdescribes.measurements hrecord
    obtain ⟨hsource, query, hquery, hstation, hparameter⟩ := honest_measurement htold hlisted
    rw [hdescribes.queries] at hquery
    obtain ⟨offer, hoffer, rfl⟩ := List.mem_map.mp hquery
    obtain ⟨hoffered, -⟩ := honest_parameter htold hoffer
    obtain ⟨parameter, hparameterRecord, hparameterRead⟩ :=
      exists_value_of_mapM hdescribes.parameters hoffer
    refine ⟨parameter.key, List.mem_map_of_mem hparameterRecord, ?_⟩
    rw [(MeasurementRecord.isOf_ofMeasurement hread).key, key_ofParameter hparameterRead, hoffered,
      MeasurementRecord.keyFor_eq_append, hsource, ← hstation, ← hparameter]
    rfl
  naive record hrecord := by
    obtain ⟨listed, -, hread⟩ := exists_mem_of_mapM hdescribes.measurements hrecord
    rw [(MeasurementRecord.isOf_ofMeasurement hread).timestamp]

theorem Collected.linked {conduct : Conduct ω} (hhonest : conduct.IsHonest)
    (htold : ∀ answer ∈ told, answer.IsHonest conduct.name) {region : Option Region}
    (hcollected : Collected now limits region told (.ok snapshot)) : Linked snapshot := by
  cases hcollected with
  | visited listed stations later _ hwanted haccount =>
      apply (haccount.done rfl).linked hhonest.name
      · intro station hstation
        exact htold _ List.mem_cons_self station (mem_of_mem_filterM hwanted hstation)
      · exact fun answer hmem => htold answer (List.mem_cons_of_mem _ hmem)

end

/-! ### Runs -/

/-- What is done to a store from one day to the next. -/
inductive Operation (ω : Type) where
  | snapshot (now : Moment) (conduct : Conduct ω) (region : Option Region) (limits : Limits)
  | purge (now : Moment) (retention : Number)

namespace Operation

/-- The store after an operation, whether it succeeds or not. -/
def run : Operation ω → Store → StateM (Stage ω) Store
  | snapshot now conduct region limits, store => do
    let (_, store) ← Snapshot.take now conduct.source region limits store
    pure store
  | purge now retention, store => do
    let (_, store) ← Store.purge now retention store
    pure store

def IsHonest : Operation ω → Prop
  | snapshot _ conduct _ _ => conduct.IsHonest
  | purge _ _ => True

/-- The store after several operations. -/
def runAll : List (Operation ω) → Store → StateM (Stage ω) Store
  | [], store => pure store
  | operation :: rest, store => do
    let store ← operation.run store
    runAll rest store

end Operation

variable {operation : Operation ω} {operations : List (Operation ω)} {store : Store}

theorem IsLinked.take (hstore : IsLinked store) {conduct : Conduct ω} (hhonest : conduct.IsHonest)
    (now : Moment) (region : Option Region) (limits : Limits) (stage : Stage ω) :
    IsLinked (Snapshot.take now conduct.source region limits store stage).1.2 := by
  obtain ⟨told, result, htold, hcollected, htaken⟩ :=
    take_relates now conduct region limits store stage
  rw [htaken]
  cases result with
  | error failure => exact hstore
  | ok snapshot =>
      have hlinked := hcollected.linked hhonest (hhonest.told htold)
      obtain ⟨saved, hpart, hoverridden⟩ := overriddenBy_store now snapshot store
      exact hstore.override (hpart.linked hlinked) hoverridden

theorem IsLinked.run (hstore : IsLinked store) (hhonest : operation.IsHonest) (stage : Stage ω) :
    IsLinked (operation.run store stage).1 := by
  cases operation with
  | snapshot now conduct region limits => exact hstore.take hhonest now region limits stage
  | purge now retention =>
      have hpurged := hstore.purged now retention
      rw [← purge_apply now retention store stage] at hpurged
      exact hpurged

theorem IsLinked.runAll (hstore : IsLinked store)
    (hhonest : ∀ operation ∈ operations, operation.IsHonest) (stage : Stage ω) :
    IsLinked (Operation.runAll operations store stage).1 := by
  induction operations generalizing store stage with
  | nil => exact hstore
  | cons operation rest ih =>
      have hfirst := hstore.run (hhonest operation List.mem_cons_self) stage
      exact ih hfirst (fun other hother => hhonest other (List.mem_cons_of_mem operation hother)) _

/-- Whatever snapshots and purges an empty store goes through, and however they end, each
measurement has the key of a parameter and its time, and each parameter is one of a station. -/
theorem runAll_withoutOrphans (hhonest : ∀ operation ∈ operations, operation.IsHonest)
    (stage : Stage ω) :
    let store := (Operation.runAll operations .empty stage).1
    (∀ row ∈ store.measurements, ∃ parameter ∈ store.parameters,
      row.key = parameter.key ++ ":" ++ row.timestamp.iso) ∧
    ∀ row ∈ store.parameters, ∃ station ∈ store.stations,
      station.source = row.source ∧ station.stationId = row.stationId := by
  intro store
  have hlinked : IsLinked store := isLinked_empty.runAll hhonest stage
  constructor
  · intro row hrow
    obtain ⟨key, hkey, hwritten⟩ := hlinked.measurements row hrow
    obtain ⟨parameter, hparameter, rfl⟩ := List.mem_map.mp hkey
    exact ⟨parameter, hparameter, hwritten⟩
  · intro row hrow
    obtain ⟨name, place, id, hname, hnamed, hkey⟩ := hlinked.parameters row hrow
    obtain ⟨station, hstation, hsame⟩ := List.mem_map.mp hkey
    obtain ⟨name', place', hname', hnamed'⟩ := hlinked.stations station hstation
    have hkeys := hnamed'.key.symm.trans hsame
    obtain ⟨rfl, rfl⟩ := (StationRecord.keyFor_eq_iff (hname'.trans hname.symm)).mp hkeys
    refine ⟨station, hstation, ?_, ?_⟩
    · rw [hnamed.source, hnamed'.source]
    · rw [hnamed.stationId, hnamed'.stationId]

/-- A source that lists one station, one parameter for any station, and one measurement for any
query. -/
def obliging (value : Json) : Conduct Unit where
  name := "GIOS"
  stations _ := ⟨.ok [⟨"1", .null, .null, .null, "GIOS"⟩], (), false⟩
  parameters _ _ := ⟨.ok [dustParameter "3"], (), false⟩
  measurements query _ := ⟨.ok [⟨value, juneNoon, query.stationId, "PM10", "GIOS"⟩], (), false⟩

theorem isHonest_obliging (value : Json) : (obliging value).IsHonest where
  name := by simp [colons, obliging]
  answers world call := by
    cases call with
    | stations => simp [Conduct.answer, obliging, Answer.IsHonest]
    | parameters stationId => simp [Conduct.answer, obliging, Answer.IsHonest, dustParameter]
    | measurements query => simp [Conduct.answer, obliging, Answer.IsHonest]

/-- A snapshot, one whose measurement the store rejects, and a purge. -/
def fewOperations : List (Operation Unit) :=
  [.snapshot juneNoon (obliging (.float 1)) none .standard,
    .snapshot juneNoon (obliging .null) none .standard, .purge juneNoon (.whole 30)]

theorem runAll_withoutOrphans_few :
    let store := (Operation.runAll fewOperations .empty (.fresh ())).1
    store.measurements.length = 1 ∧
      (∀ row ∈ store.measurements, ∃ parameter ∈ store.parameters,
        row.key = parameter.key ++ ":" ++ row.timestamp.iso) ∧
      ∀ row ∈ store.parameters, ∃ station ∈ store.stations,
        station.source = row.source ∧ station.stationId = row.stationId := by
  have hhonest : ∀ operation ∈ fewOperations, operation.IsHonest := by
    simp [fewOperations, Operation.IsHonest, isHonest_obliging]
  intro store
  constructor
  · decide +kernel
  · exact runAll_withoutOrphans hhonest (.fresh ())

end Store

end AirQuality
