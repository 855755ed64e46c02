import AirQuality.Proofs.Store.Key
import AirQuality.Proofs.Store.Record

/-!
# What the keys of records identify

A measurement is a reading of a parameter at an instant, and a parameter is one of a station of a
source.  Where the names of sources and stations have the same number of colons, which is none in
most, two records have the same key just if they are about the same; so saving one of them leaves
the other alone unless it is about the same, and then it takes its place.  Names with different
numbers of colons may run into one another.
-/

namespace AirQuality.Store

open Outcome
open Rows (find?)
open Time (Moment)

/-- What a parameter record is about. -/
structure ParameterName where
  source : String
  stationId : String
  parameterId : String
deriving DecidableEq

/-- What a measurement record is about. -/
structure ReadingName where
  parameter : ParameterName
  instant : Int
deriving DecidableEq

def ParameterName.of (stationId : String) (parameter : Parameter) : ParameterName :=
  ⟨parameter.source, stationId, parameter.id⟩

/-- The reading that a measurement of a parameter is, whatever its clock's distance from UTC. -/
def ReadingName.of (parameterId : String) (measurement : Measurement) : ReadingName :=
  ⟨⟨measurement.source, measurement.stationId, parameterId⟩, measurement.timestamp.instant⟩

/-- A record among those saved, where another one is saved that may be about the same. -/
structure Identified {ρ : Type} [Shelf ρ] (first second : ρ) (same : Prop) : Prop where
  key_eq_iff : Record.key first = Record.key second ↔ same
  /-- Something else does not overwrite it. -/
  kept (hother : ¬same) (now : Moment) (store : Store) :
    find? (Record.key first) (Shelf.rows (save now second store).2 : List ρ) =
      find? (Record.key first) (Shelf.rows store)
  /-- The same is not stored a second time. -/
  replaced (hsame : same) (now : Moment) (store : Store)
    (hstored : Record.key first ∈ (Shelf.rows store : List ρ).map Record.key) :
    (Shelf.rows (save now second store).2 : List ρ).map Record.key =
      (Shelf.rows store : List ρ).map Record.key

variable {ρ : Type} [Shelf ρ] [LawfulShelf ρ] [Refreshable ρ] {first second : ρ}

theorem identified_of_key_eq_iff {same : Prop}
    (hkey : Record.key first = Record.key second ↔ same) : Identified first second same where
  key_eq_iff := hkey
  kept hother now store := by
    rcases rows_save now second store with ⟨row, hrow, hrows⟩ | hnothing
    · have hdifferent : Record.key row ≠ Record.key first := by
        rw [hrow]
        exact fun hsame => hother (hkey.mp hsame.symm)
      rw [hrows, Rows.find?_put, if_neg hdifferent]
    · rw [hnothing]
  replaced hsame now store hstored := by
    rcases rows_save now second store with ⟨row, hrow, hrows⟩ | hnothing
    · rw [hkey.mpr hsame, ← hrow] at hstored
      rw [hrows, Rows.keys_put, if_pos hstored, List.append_nil]
    · rw [hnothing]

/-! ### Records of parameters and measurements -/

/-- A parameter has a record if its name is a text or missing. -/
theorem exists_ofParameter_iff (now : Moment) (stationId : String) (parameter : Parameter) :
    (∃ record, ParameterRecord.ofParameter now stationId parameter = .ok record) ↔
      parameter.rawName = .null ∨ ∃ name, parameter.rawName = .text name := by
  unfold ParameterRecord.ofParameter Parameter.canonicalKey CanonicalKey.ofJson
  cases parameter.rawName with
  | null => simp
  | text name => simp
  | _ => simp

theorem key_ofParameter {now : Moment} {stationId : String} {parameter : Parameter}
    {record : ParameterRecord}
    (hrecord : ParameterRecord.ofParameter now stationId parameter = .ok record) :
    record.key = ParameterRecord.keyFor (.text parameter.source) (.text stationId)
      (.text parameter.id) := by
  obtain ⟨_, -, hdone⟩ := bind_eq_ok hrecord
  cases hdone
  rfl

/-- A measurement has a record if its instant is in the calendar, or its clock is unmarked. -/
theorem exists_ofMeasurement_iff (now : Moment) (parameterId : String)
    (measurement : Measurement) :
    (∃ record, MeasurementRecord.ofMeasurement now parameterId measurement = .ok record) ↔
      HasUtc measurement.timestamp := by
  unfold MeasurementRecord.ofMeasurement
  by_cases hutc : HasUtc measurement.timestamp
  · simp [onNaiveUtc_of_hasUtc hutc, hutc]
  · simp [onNaiveUtc_of_not_hasUtc hutc, hutc]

/-- The time of a record is the instant of its measurement, on an unmarked clock. -/
structure MeasurementRecord.IsOf (record : MeasurementRecord) (parameterId : String)
    (measurement : Measurement) : Prop where
  key : record.key = keyFor (.text measurement.source) (.text measurement.stationId)
    (.text parameterId) record.timestamp
  timestamp : record.timestamp = ⟨measurement.timestamp.instant, none⟩

theorem MeasurementRecord.isOf_ofMeasurement {now : Moment} {parameterId : String}
    {measurement : Measurement} {record : MeasurementRecord}
    (hrecord : ofMeasurement now parameterId measurement = .ok record) :
    record.IsOf parameterId measurement := by
  have hutc := (exists_ofMeasurement_iff now parameterId measurement).mp ⟨record, hrecord⟩
  obtain ⟨timestamp, htimestamp, hdone⟩ := bind_eq_ok hrecord
  rw [onNaiveUtc_of_hasUtc hutc] at htimestamp
  cases htimestamp
  cases hdone
  exact ⟨rfl, rfl⟩

theorem inCalendar_instant {now : Moment} {parameterId : String} {measurement : Measurement}
    {record : MeasurementRecord}
    (hrecord : MeasurementRecord.ofMeasurement now parameterId measurement = .ok record)
    (hwall : Time.inCalendar measurement.timestamp.wall = true) :
    Time.inCalendar measurement.timestamp.instant = true := by
  rcases (exists_ofMeasurement_iff now parameterId measurement).mp ⟨record, hrecord⟩ with
    hnaive | hutc
  · have hnone : measurement.timestamp.offset = none := by
      simpa [Moment.isNaive] using hnaive
    simpa [Moment.instant, hnone] using hwall
  · exact hutc

/-- The keys of measurement records tell the keys of their parameters and the instants. -/
theorem key_ofMeasurement_eq_iff {now now' : Moment} {parameterId parameterId' : String}
    {measurement measurement' : Measurement} {record record' : MeasurementRecord}
    (hrecord : MeasurementRecord.ofMeasurement now parameterId measurement = .ok record)
    (hrecord' : MeasurementRecord.ofMeasurement now' parameterId' measurement' = .ok record')
    (hwall : Time.inCalendar measurement.timestamp.wall = true)
    (hwall' : Time.inCalendar measurement'.timestamp.wall = true) :
    record.key = record'.key ↔
      ParameterRecord.keyFor (.text measurement.source) (.text measurement.stationId)
          (.text parameterId) =
        ParameterRecord.keyFor (.text measurement'.source) (.text measurement'.stationId)
          (.text parameterId') ∧
      measurement.timestamp.instant = measurement'.timestamp.instant := by
  have hof := MeasurementRecord.isOf_ofMeasurement hrecord
  have hof' := MeasurementRecord.isOf_ofMeasurement hrecord'
  rw [hof.key, hof'.key, hof.timestamp, hof'.timestamp]
  exact MeasurementRecord.keyFor_eq_iff rfl rfl (inCalendar_instant hrecord hwall)
    (inCalendar_instant hrecord' hwall')

theorem identified_measurements {now now' : Moment} {parameterId parameterId' : String}
    {measurement measurement' : Measurement} {record record' : MeasurementRecord}
    (hrecord : MeasurementRecord.ofMeasurement now parameterId measurement = .ok record)
    (hrecord' : MeasurementRecord.ofMeasurement now' parameterId' measurement' = .ok record')
    (hwall : Time.inCalendar measurement.timestamp.wall = true)
    (hwall' : Time.inCalendar measurement'.timestamp.wall = true)
    (hsource : colons measurement.source = colons measurement'.source)
    (hstation : colons measurement.stationId = colons measurement'.stationId) :
    Identified record record'
      (ReadingName.of parameterId measurement = ReadingName.of parameterId' measurement') := by
  apply identified_of_key_eq_iff
  change record.key = record'.key ↔ _
  rw [key_ofMeasurement_eq_iff hrecord hrecord' hwall hwall',
    ParameterRecord.keyFor_eq_iff hsource hstation]
  simp [ReadingName.of]

theorem identified_parameters {now now' : Moment} {stationId stationId' : String}
    {parameter parameter' : Parameter} {record record' : ParameterRecord}
    (hrecord : ParameterRecord.ofParameter now stationId parameter = .ok record)
    (hrecord' : ParameterRecord.ofParameter now' stationId' parameter' = .ok record')
    (hsource : colons parameter.source = colons parameter'.source)
    (hstation : colons stationId = colons stationId') :
    Identified record record'
      (ParameterName.of stationId parameter = ParameterName.of stationId' parameter') := by
  apply identified_of_key_eq_iff
  change record.key = record'.key ↔ _
  rw [key_ofParameter hrecord, key_ofParameter hrecord',
    ParameterRecord.keyFor_eq_iff hsource hstation]
  simp [ParameterName.of]

/-- Among sources and stations with as many colons in their names each, keys say what records are
about, and saving keeps apart what differs and stores nothing twice.  A record is made of every
measurement whose instant is in the calendar and of every parameter whose name is a text, if it has
one. -/
theorem keys_identify (now now' : Moment) :
    (∀ (id id' : String) (measurement measurement' : Measurement),
      Time.inCalendar measurement.timestamp.wall → Time.inCalendar measurement'.timestamp.wall →
      ((∃ record, MeasurementRecord.ofMeasurement now id measurement = .ok record) ↔
        HasUtc measurement.timestamp) ∧
      ∀ record record', MeasurementRecord.ofMeasurement now id measurement = .ok record →
        MeasurementRecord.ofMeasurement now' id' measurement' = .ok record' →
        colons measurement.source = colons measurement'.source →
        colons measurement.stationId = colons measurement'.stationId →
        Identified record record'
          (ReadingName.of id measurement = ReadingName.of id' measurement')) ∧
    ∀ (id id' : String) (parameter parameter' : Parameter),
      ((∃ record, ParameterRecord.ofParameter now id parameter = .ok record) ↔
        parameter.rawName = .null ∨ ∃ name, parameter.rawName = .text name) ∧
      ∀ record record', ParameterRecord.ofParameter now id parameter = .ok record →
        ParameterRecord.ofParameter now' id' parameter' = .ok record' →
        colons parameter.source = colons parameter'.source → colons id = colons id' →
        Identified record record'
          (ParameterName.of id parameter = ParameterName.of id' parameter') := by
  constructor
  · intro id id' measurement measurement' hwall hwall'
    constructor
    · exact exists_ofMeasurement_iff now id measurement
    · intro record record' hrecord hrecord' hsource hstation
      exact identified_measurements hrecord hrecord' hwall hwall' hsource hstation
  · intro id id' parameter parameter'
    constructor
    · exact exists_ofParameter_iff now id parameter
    · intro record record' hrecord hrecord' hsource hstation
      exact identified_parameters hrecord hrecord' hsource hstation

/-- Noon of 1 June 2025 on an unmarked clock. -/
def juneNoon : Moment := ⟨1748779200000000, none⟩

def dust (stationId : String) (timestamp : Moment) : Measurement :=
  ⟨.float 1, timestamp, stationId, "PM10", "GIOS"⟩

def dustParameter (id : String) : Parameter := ⟨id, .text "PM10", .null, .null, .null, "GIOS"⟩

/-- The same noon on a clock two hours ahead of UTC. -/
def warsawNoon : Moment := ⟨juneNoon.wall + 7200000000, some 7200000000⟩

/-- Readings of one instant on two clocks are one, those of two parameters are not. -/
theorem keys_identify_twoClocks :
    (∃ record record',
      MeasurementRecord.ofMeasurement juneNoon "3" (dust "1" juneNoon) = .ok record ∧
      MeasurementRecord.ofMeasurement juneNoon "3" (dust "1" warsawNoon) = .ok record' ∧
      Identified record record' True) ∧
    ∃ record record', ParameterRecord.ofParameter juneNoon "1" (dustParameter "3") = .ok record ∧
      ParameterRecord.ofParameter juneNoon "1" (dustParameter "4") = .ok record' ∧
      Identified record record' False := by
  obtain ⟨hmeasurements, hparameters⟩ := keys_identify juneNoon juneNoon
  constructor
  · obtain ⟨hexists, hidentified⟩ := hmeasurements "3" "3" (dust "1" juneNoon) (dust "1" warsawNoon)
      (by decide) (by decide)
    obtain ⟨hexists', -⟩ := hmeasurements "3" "3" (dust "1" warsawNoon) (dust "1" juneNoon)
      (by decide) (by decide)
    obtain ⟨record, hrecord⟩ := hexists.mpr (by decide)
    obtain ⟨record', hrecord'⟩ := hexists'.mpr (by decide)
    have hsame : (ReadingName.of "3" (dust "1" juneNoon) =
        ReadingName.of "3" (dust "1" warsawNoon)) = True := eq_true (by decide)
    refine ⟨record, record', hrecord, hrecord', ?_⟩
    rw [← hsame]
    exact hidentified record record' hrecord hrecord' rfl rfl
  · obtain ⟨hexists, hidentified⟩ := hparameters "1" "1" (dustParameter "3") (dustParameter "4")
    obtain ⟨hexists', -⟩ := hparameters "1" "1" (dustParameter "4") (dustParameter "3")
    obtain ⟨record, hrecord⟩ := hexists.mpr (.inr ⟨"PM10", rfl⟩)
    obtain ⟨record', hrecord'⟩ := hexists'.mpr (.inr ⟨"PM10", rfl⟩)
    have hother : (ParameterName.of "1" (dustParameter "3") =
        ParameterName.of "1" (dustParameter "4")) = False := eq_false (by decide)
    refine ⟨record, record', hrecord, hrecord', ?_⟩
    rw [← hother]
    exact hidentified record record' hrecord hrecord' rfl rfl

/-- The rows after two records have been saved in an empty store. -/
def savedTwo {ρ : Type} [Shelf ρ] (first second : Except Failure ρ) : List ρ :=
  match first, second with
  | .ok first, .ok second => Shelf.rows ((save juneNoon first *> save juneNoon second) .empty).2
  | _, _ => []

/-- A station `1:2` with a parameter `3` and a station `1` with a parameter `2:3` have one key
between them, and the second reading takes the place of the first. -/
theorem keys_identify_collision :
    ReadingName.of "3" (dust "1:2" juneNoon) ≠ ReadingName.of "2:3" (dust "1" juneNoon) ∧
      (savedTwo (MeasurementRecord.ofMeasurement juneNoon "3" (dust "1:2" juneNoon))
        (MeasurementRecord.ofMeasurement juneNoon "2:3" (dust "1" juneNoon))).map
          (·.stationId.display) = ["1"] ∧
      ParameterName.of "1:2" (dustParameter "3") ≠ ParameterName.of "1" (dustParameter "2:3") ∧
      (savedTwo (ParameterRecord.ofParameter juneNoon "1:2" (dustParameter "3"))
        (ParameterRecord.ofParameter juneNoon "1" (dustParameter "2:3"))).map
          (·.stationId.display) = ["1"] := by
  decide +kernel

end AirQuality.Store
