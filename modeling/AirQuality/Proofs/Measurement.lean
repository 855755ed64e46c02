import AirQuality.Proofs.Reading.Newest

/-!
# Measurements of the last records

The measurements made from the last of some records are the newest of those made from all of
them, up to the sign of a zero.
-/

namespace AirQuality.Measurement

open Outcome
open Reading (Comparable Dated eligible)
open Time (Moment)

variable {tag : Tag} {now : Moment} {limits : Limits} {records : List Record}

theorem ofRecords_eq_ok {measurements : List Measurement}
    (hrecords : ofRecords tag now limits none records = .ok measurements) :
    ∃ readings, Reading.select now limits none records = .ok readings ∧
      readings.mapM (ofReading tag) = .ok measurements := by
  cases hselect : Reading.select now limits none records with
  | error failure =>
      simp only [ofRecords, hselect] at hrecords
      cases hrecords
  | ok readings =>
      simp only [ofRecords, hselect, ok_bind] at hrecords
      exact ⟨readings, rfl, hrecords⟩

/-- A measurement without the sign of its zero. -/
def withOneZero (measurement : Measurement) : Measurement :=
  match measurement.value with
  | .float number => { measurement with value := .float (Decimal.oneZero number) }
  | _ => measurement

/-- What the values left of a column do to a measurement. -/
def settleZero (records : List Record) (measurement : Measurement) : Measurement :=
  if Column.areWhole (records.map (·.value)) then withOneZero measurement else measurement

/-- Some first measurements are all of them only if they are enough. -/
theorem map_settleZero_take_eq_iff {measurements : List Measurement} (count : Nat) :
    (measurements.take count).map (settleZero records) = measurements ↔
      measurements.length ≤ count ∧ measurements.map (settleZero records) = measurements := by
  constructor
  · intro hsame
    have hcount := congrArg List.length hsame
    rw [List.length_map, List.length_take] at hcount
    have hle : measurements.length ≤ count := by omega
    rw [List.take_of_length_le hle] at hsame
    exact ⟨hle, hsame⟩
  · rintro ⟨hle, hsame⟩
    rw [List.take_of_length_le hle, hsame]

theorem ofReading_settleZero (reading : Reading) (measurement : Measurement)
    (hreading : ofReading tag reading = .ok measurement) :
    ofReading tag (Reading.settleZero records reading) = .ok (settleZero records measurement) := by
  cases hmoment : reading.moment with
  | error failure =>
      simp only [ofReading, hmoment] at hreading
      cases hreading
  | ok moment =>
      simp only [ofReading, hmoment, ok_bind, pure_eq_ok, Except.ok.injEq] at hreading
      subst hreading
      unfold Reading.settleZero settleZero
      split
      · have hsame : (Reading.withOneZero reading).moment = .ok moment := hmoment
        simp only [ofReading, hsame, ok_bind, pure_eq_ok]
        rfl
      · simp only [ofReading, hmoment, ok_bind, pure_eq_ok]

variable {instants : List Int} {oldest : Option Moment} {numbers : List Float}

theorem ofRecords_drop (hdated : Dated records instants)
    (hcomparable : Comparable now limits records oldest numbers) (skipped : Nat)
    {measurements : List Measurement}
    (hrecords : ofRecords tag now limits none records = .ok measurements) :
    ofRecords tag now limits none (records.drop skipped) =
      .ok ((measurements.take
        (eligible oldest (instants.drop skipped) (numbers.drop skipped)).length).map
          (settleZero (records.drop skipped))) := by
  obtain ⟨readings, hselect, hread⟩ := ofRecords_eq_ok hrecords
  rw [ofRecords, Reading.select_drop hdated hcomparable skipped hselect, ok_bind]
  exact mapM_map_of_commute ofReading_settleZero (mapM_take hread _)

/-- Where the last records have usable values only, and are enough for the cap, they make all
measurements. -/
theorem ofRecords_drop_of_isUsable (hdated : Dated records instants)
    (hcomparable : Comparable now limits records oldest numbers) {skipped : Nat} {count : Int}
    (hcap : limits.maxCount = some count)
    (husable : ∀ record ∈ records.drop skipped, Reading.IsUsable record.value)
    (henough : skipped = 0 ∨ count.toNat ≤ (records.drop skipped).length)
    {measurements : List Measurement}
    (hrecords : ofRecords tag now limits none records = .ok measurements) :
    ofRecords tag now limits none (records.drop skipped) = .ok measurements := by
  obtain ⟨readings, hselect, hread⟩ := ofRecords_eq_ok hrecords
  rw [ofRecords, Reading.select_drop_of_isUsable hdated hcomparable hcap husable henough hselect]
  exact hread

end AirQuality.Measurement
