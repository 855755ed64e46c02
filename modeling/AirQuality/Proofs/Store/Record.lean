import AirQuality.Proofs.Store.Rows

/-!
# What is kept of the three kinds of records

A row has the key of its record, and what it says apart from its moments does not depend on the
moments of the record.  A station, a parameter or a measurement is kept if the source gave it in the
form it should have.
-/

namespace AirQuality.Store

open Outcome (bind_eq_ok)
open Time (Moment)

/-- The moment of a record without its moments. -/
def noMoment : Moment := ⟨0, none⟩

/-! ### Moments on UTC -/

/-- A moment that is on UTC already, or can be brought there within the calendar. -/
def HasUtc (moment : Moment) : Prop := moment.isNaive ∨ Time.inCalendar moment.instant

instance (moment : Moment) : Decidable (HasUtc moment) := inferInstanceAs (Decidable (_ ∨ _))

theorem onNaiveUtc_of_hasUtc {moment : Moment} (hutc : HasUtc moment) :
    onNaiveUtc moment = .ok moment.naiveUtc := by
  have hcheck : (moment.isNaive || Time.inCalendar moment.instant) = true := by
    simpa [HasUtc] using hutc
  rw [onNaiveUtc, if_pos hcheck]

theorem onNaiveUtc_of_not_hasUtc {moment : Moment} (hutc : ¬HasUtc moment) :
    onNaiveUtc moment = .error (.number .dateOutOfRange) := by
  have hcheck : ¬(moment.isNaive || Time.inCalendar moment.instant) = true := by
    simpa [HasUtc] using hutc
  rw [onNaiveUtc, if_neg hcheck]

/-- A moment whose distance from UTC is not known is kept as it is. -/
theorem unmarked_of_naive {moment : Moment} (hnaive : moment.offset = none) :
    unmarked moment = moment := by
  cases moment
  subst hnaive
  rfl

/-! ### Stations -/

namespace StationRecord

/-- What a kept station says. -/
structure IsKept (record row : StationRecord) : Prop where
  key : row.key = record.key
  source : keptText record.source = .ok row.source
  stationId : keptText record.stationId = .ok row.stationId
  displayName : keptText record.displayName = .ok row.displayName
  latitude : keptNumber record.latitude = .ok row.latitude
  longitude : keptNumber record.longitude = .ok row.longitude

theorem isKept_of_kept {record row : StationRecord} (hkept : record.kept = .ok row) :
    record.IsKept row := by
  obtain ⟨latitude, hlatitude, hkept⟩ := bind_eq_ok hkept
  obtain ⟨longitude, hlongitude, hkept⟩ := bind_eq_ok hkept
  obtain ⟨source, hsource, hkept⟩ := bind_eq_ok hkept
  obtain ⟨stationId, hstation, hkept⟩ := bind_eq_ok hkept
  obtain ⟨displayName, hname, hkept⟩ := bind_eq_ok hkept
  obtain ⟨-, -, hkept⟩ := bind_eq_ok hkept
  obtain rfl := Except.ok.inj hkept
  exact ⟨rfl, hsource, hstation, hname, hlatitude, hlongitude⟩

instance : Refreshable StationRecord where
  undated record := { record with createdAt := noMoment, updatedAt := noMoment }
  key_undated _ := rfl
  undated_replacing _ _ _ := rfl
  map_undated_kept record := by simp [Record.kept, kept]
  key_kept hkept := (isKept_of_kept hkept).key

/-- A row says what its record says, whatever its moments are. -/
theorem isKept_of_content {record row : StationRecord}
    (hcontent : Rows.content record = .ok (Refreshable.undated row)) : record.IsKept row := by
  obtain ⟨kept, hkept, hsame⟩ := Rows.kept_of_content hcontent
  have hrecord := isKept_of_kept hkept
  cases kept
  cases row
  simp only [Refreshable.undated, mk.injEq] at hsame
  obtain ⟨rfl, rfl, rfl, rfl, rfl, rfl, -⟩ := hsame
  exact ⟨hrecord.key, hrecord.source, hrecord.stationId, hrecord.displayName,
    hrecord.latitude, hrecord.longitude⟩

end StationRecord

/-! ### Parameters -/

namespace ParameterRecord

/-- What a kept parameter says. -/
structure IsKept (record row : ParameterRecord) : Prop where
  key : row.key = record.key
  source : keptText record.source = .ok row.source
  stationId : keptText record.stationId = .ok row.stationId
  parameterId : keptText record.parameterId = .ok row.parameterId
  canonicalKey : row.canonicalKey = record.canonicalKey
  rawName : keptText record.rawName = .ok row.rawName
  displayName : keptText record.displayName = .ok row.displayName
  unit : keptText record.unit = .ok row.unit
  description : keptText record.description = .ok row.description

theorem isKept_of_kept {record row : ParameterRecord} (hkept : record.kept = .ok row) :
    record.IsKept row := by
  obtain ⟨source, hsource, hkept⟩ := bind_eq_ok hkept
  obtain ⟨stationId, hstation, hkept⟩ := bind_eq_ok hkept
  obtain ⟨parameterId, hparameter, hkept⟩ := bind_eq_ok hkept
  obtain ⟨rawName, hraw, hkept⟩ := bind_eq_ok hkept
  obtain ⟨displayName, hname, hkept⟩ := bind_eq_ok hkept
  obtain ⟨unit, hunit, hkept⟩ := bind_eq_ok hkept
  obtain ⟨description, hdescription, hkept⟩ := bind_eq_ok hkept
  obtain ⟨-, -, hkept⟩ := bind_eq_ok hkept
  obtain rfl := Except.ok.inj hkept
  exact ⟨rfl, hsource, hstation, hparameter, rfl, hraw, hname, hunit, hdescription⟩

instance : Refreshable ParameterRecord where
  undated record := { record with createdAt := noMoment, updatedAt := noMoment }
  key_undated _ := rfl
  undated_replacing _ _ _ := rfl
  map_undated_kept record := by simp [Record.kept, kept]
  key_kept hkept := (isKept_of_kept hkept).key

/-- A row says what its record says, whatever its moments are. -/
theorem isKept_of_content {record row : ParameterRecord}
    (hcontent : Rows.content record = .ok (Refreshable.undated row)) : record.IsKept row := by
  obtain ⟨kept, hkept, hsame⟩ := Rows.kept_of_content hcontent
  have hrecord := isKept_of_kept hkept
  cases kept
  cases row
  simp only [Refreshable.undated, mk.injEq] at hsame
  obtain ⟨rfl, rfl, rfl, rfl, rfl, rfl, rfl, rfl, rfl, -⟩ := hsame
  exact ⟨hrecord.key, hrecord.source, hrecord.stationId, hrecord.parameterId, hrecord.canonicalKey,
    hrecord.rawName, hrecord.displayName, hrecord.unit, hrecord.description⟩

end ParameterRecord

/-! ### Measurements -/

namespace MeasurementRecord

/-- What a kept measurement says. -/
structure IsKept (record row : MeasurementRecord) : Prop where
  key : row.key = record.key
  source : keptText record.source = .ok row.source
  stationId : keptText record.stationId = .ok row.stationId
  parameterKey : keptText record.parameterKey = .ok row.parameterKey
  value : keptNumber record.value = .ok row.value
  timestamp : row.timestamp = unmarked record.timestamp

theorem isKept_of_kept {record row : MeasurementRecord} (hkept : record.kept = .ok row) :
    record.IsKept row := by
  obtain ⟨value, hvalue, hkept⟩ := bind_eq_ok hkept
  obtain ⟨source, hsource, hkept⟩ := bind_eq_ok hkept
  obtain ⟨stationId, hstation, hkept⟩ := bind_eq_ok hkept
  obtain ⟨parameterKey, hparameter, hkept⟩ := bind_eq_ok hkept
  obtain ⟨-, -, hkept⟩ := bind_eq_ok hkept
  obtain rfl := Except.ok.inj hkept
  exact ⟨rfl, hsource, hstation, hparameter, hvalue, rfl⟩

instance : Refreshable MeasurementRecord where
  undated record := { record with createdAt := noMoment }
  key_undated _ := rfl
  undated_replacing _ _ _ := rfl
  map_undated_kept record := by simp [Record.kept, kept]
  key_kept hkept := (isKept_of_kept hkept).key

/-- A row says what its record says, whatever its moments are. -/
theorem isKept_of_content {record row : MeasurementRecord}
    (hcontent : Rows.content record = .ok (Refreshable.undated row)) : record.IsKept row := by
  obtain ⟨kept, hkept, hsame⟩ := Rows.kept_of_content hcontent
  have hrecord := isKept_of_kept hkept
  cases kept
  cases row
  simp only [Refreshable.undated, mk.injEq] at hsame
  obtain ⟨rfl, rfl, rfl, rfl, rfl, rfl, -⟩ := hsame
  exact ⟨hrecord.key, hrecord.source, hrecord.stationId, hrecord.parameterKey, hrecord.value,
    hrecord.timestamp⟩

end MeasurementRecord

end AirQuality.Store
