import AirQuality.Proofs.Region.Globe
import AirQuality.Proofs.Store.Account
import AirQuality.Proofs.Store.Identity
import AirQuality.Proofs.Summary.Groups

/-!
# Answers without surprises

An answer is plain if the call does not fail and everything it lists has the form it should have:
texts or nothing for names, binary64 numbers or nothing for coordinates, and finite numbers for
values.  Plain stations can be told to be in a region or not, and records of plain data are kept.
-/

namespace AirQuality

open Outcome
open Time (Moment)

/-! ### Plain data -/

def Json.IsFloatOrNull (value : Json) : Prop := value = .null ∨ ∃ number, value = .float number

/-- A value that stands for a finite number. -/
def Json.IsFinite (value : Json) : Prop :=
  ∃ number, value.toFloat = .ok number ∧ Decimal.isFinite number = true

structure Station.IsPlain (station : Station) : Prop where
  displayName : station.displayName.IsTextOrNull
  latitude : station.latitude.IsFloatOrNull
  longitude : station.longitude.IsFloatOrNull

def Answer.IsPlain : Answer → Prop
  | stations (.ok listed) => ∀ station ∈ listed, station.IsPlain
  | parameters _ (.ok listed) => ∀ parameter ∈ listed, parameter.IsPlain
  | measurements _ (.ok listed) => ∀ measurement ∈ listed, measurement.value.IsFinite
  | _ => False

theorem Answer.IsPlain.failure?_eq_none {answer : Answer} (hplain : answer.IsPlain) :
    answer.failure? = none := by
  cases answer with
  | stations outcome => cases outcome with
    | ok listed => rfl
    | error failure => exact hplain.elim
  | parameters stationId outcome => cases outcome with
    | ok listed => rfl
    | error failure => exact hplain.elim
  | measurements query outcome => cases outcome with
    | ok listed => rfl
    | error failure => exact hplain.elim

section

variable {told : List Answer} (hplain : ∀ answer ∈ told, answer.IsPlain)

include hplain

theorem Parameter.isPlain_of_mem {listed : String × Parameter}
    (hmem : listed ∈ told.flatMap Answer.parametersListed) : listed.2.IsPlain := by
  obtain ⟨answer, hanswer, hlisted⟩ := List.mem_flatMap.mp hmem
  have hdata := hplain answer hanswer
  cases answer with
  | stations outcome => cases hlisted
  | measurements query outcome => cases hlisted
  | parameters stationId outcome =>
      cases outcome with
      | error failure => cases hlisted
      | ok parameters =>
          obtain ⟨parameter, hparameter, rfl⟩ := List.mem_map.mp hlisted
          exact hdata parameter hparameter

theorem Measurement.isFinite_of_mem {listed : String × Measurement}
    (hmem : listed ∈ told.flatMap Answer.measurementsListed) : listed.2.value.IsFinite := by
  obtain ⟨answer, hanswer, hlisted⟩ := List.mem_flatMap.mp hmem
  have hdata := hplain answer hanswer
  cases answer with
  | stations outcome => cases hlisted
  | parameters stationId outcome => cases hlisted
  | measurements query outcome =>
      cases outcome with
      | error failure => cases hlisted
      | ok measurements =>
          obtain ⟨measurement, hmeasurement, rfl⟩ := List.mem_map.mp hlisted
          exact hdata measurement hmeasurement

end

/-! ### Stations in a region -/

/-- A station on the globe and in a region, if there is one. -/
def Station.IsIn (region : Option Region) (station : Station) : Prop :=
  ∀ box ∈ region, station.position.IsOnGlobe ∧ box.contains station.position = .ok true

theorem Json.IsFloatOrNull.not_isTooLarge {value : Json} (hvalue : value.IsFloatOrNull) :
    ¬value.IsTooLarge := by
  rintro ⟨number, hnumber, hlarge⟩
  rcases hvalue with rfl | ⟨float, rfl⟩
  · cases hnumber
  · obtain rfl := Option.some.inj hnumber
    cases hlarge

namespace Store

theorem isWanted_of_isPlain {station : Station} (hplain : station.IsPlain)
    (region : Option Region) :
    ∃ inside, Snapshot.isWanted region station = .ok inside ∧
      (inside = true ↔ station.IsIn region) := by
  cases region with
  | none => exact ⟨true, rfl, by simp [Station.IsIn]⟩
  | some box =>
      unfold Snapshot.isWanted
      by_cases hglobe : station.position.IsOnGlobe
      · obtain ⟨inside, hcontains⟩ := hglobe.exists_contains box
        refine ⟨inside, ?_, ?_⟩
        · simp only [Coordinate.isValid_of_isOnGlobe hglobe, ok_bind, if_true, Region.holds,
            hglobe.check_eq_ok, hcontains]
        · simp [Station.IsIn, hglobe, hcontains]
      · have hreach : ¬station.position.IsBeyondReach := by
          rintro (⟨hlarge, -⟩ | ⟨hlarge, -⟩)
          · exact hplain.latitude.not_isTooLarge hlarge
          · exact hplain.longitude.not_isTooLarge hlarge
        refine ⟨false, ?_, ?_⟩
        · simp [Coordinate.isValid_of_not_isOnGlobe hglobe hreach]
        · simp [Station.IsIn, hglobe]

open Classical in
/-- The stations that are in a region. -/
noncomputable def stationsIn (region : Option Region) (listed : List Station) : List Station :=
  listed.filter fun station => station.IsIn region

theorem wanted_of_isPlain {listed : List Station} (region : Option Region)
    (hplain : ∀ station ∈ listed, station.IsPlain) :
    Snapshot.wanted region listed = .ok (stationsIn region listed) := by
  classical
  apply filterM_eq_ok_filter
  intro station hstation
  obtain ⟨inside, hwanted, hinside⟩ := isWanted_of_isPlain (hplain station hstation) region
  rw [hwanted, Except.ok.injEq, Bool.eq_iff_iff, hinside, decide_eq_true_iff]

/-! ### Records of plain data -/

theorem keptText_of_isTextOrNull {value : Json} (hvalue : value.IsTextOrNull) :
    keptText value = .ok value := by
  cases value with
  | null => rfl
  | text text => rfl
  | _ => exact hvalue.elim

/-- A binary64 number as it is kept: with one zero, and as nothing if it is no number. -/
def settledNumber : Json → Json
  | .float number => if Decimal.isNaN number then .null else .float (Decimal.oneZero number)
  | other => other

theorem keptNumber_of_isFloatOrNull {value : Json} (hvalue : value.IsFloatOrNull) :
    keptNumber value = .ok (settledNumber value) := by
  rcases hvalue with rfl | ⟨number, rfl⟩
  · rfl
  · rfl

theorem keptNumber_of_isFinite {value : Json} (hvalue : value.IsFinite) :
    ∃ number, keptNumber value = .ok (.float number) := by
  obtain ⟨number, hnumber, hfinite⟩ := hvalue
  refine ⟨Decimal.oneZero number, ?_⟩
  cases value with
  | null => cases hnumber
  | _ => simp [keptNumber, hnumber, Decimal.isNaN_of_isFinite hfinite]

theorem exists_content_station {station : Station} (hplain : station.IsPlain) (now : Moment) :
    ∃ row, Rows.content (StationRecord.ofStation now station) = .ok row := by
  have hlatitude := keptNumber_of_isFloatOrNull hplain.latitude
  have hlongitude := keptNumber_of_isFloatOrNull hplain.longitude
  have hname := keptText_of_isTextOrNull hplain.displayName
  simp only [Rows.content, Record.kept, StationRecord.kept, StationRecord.ofStation, hlatitude,
    hlongitude, hname, ok_bind]
  exact ⟨_, rfl⟩

theorem exists_content_parameter {now : Moment} {listed : String × Parameter}
    {record : ParameterRecord} (hplain : listed.2.IsPlain)
    (hrecord : parameterRecord now listed = .ok record) :
    ∃ row, Rows.content record = .ok row := by
  obtain ⟨key, -, hdone⟩ := bind_eq_ok hrecord
  obtain rfl := Except.ok.inj hdone
  have hraw := keptText_of_isTextOrNull hplain.rawName
  have hname := keptText_of_isTextOrNull hplain.displayName
  have hunit := keptText_of_isTextOrNull hplain.unit
  have hdescription := keptText_of_isTextOrNull hplain.description
  simp only [Rows.content, Record.kept, ParameterRecord.kept, hraw, hname, hunit, hdescription,
    ok_bind]
  exact ⟨_, rfl⟩

theorem exists_content_measurement {now : Moment} {listed : String × Measurement}
    {record : MeasurementRecord} (hfinite : listed.2.value.IsFinite)
    (hrecord : measurementRecord now listed = .ok record) :
    ∃ row, Rows.content record = .ok row := by
  obtain ⟨timestamp, -, hdone⟩ := bind_eq_ok hrecord
  obtain rfl := Except.ok.inj hdone
  obtain ⟨number, hnumber⟩ := keptNumber_of_isFinite hfinite
  simp only [Rows.content, Record.kept, MeasurementRecord.kept, hnumber, ok_bind]
  exact ⟨_, rfl⟩

theorem exists_parameterRecord {listed : String × Parameter} (hplain : listed.2.IsPlain)
    (now : Moment) : ∃ record, parameterRecord now listed = .ok record := by
  obtain ⟨key, hkey⟩ := hplain.exists_canonicalKey
  simp only [parameterRecord, ParameterRecord.ofParameter, hkey, ok_bind]
  exact ⟨_, rfl⟩

end Store

end AirQuality
