import AirQuality.Proofs.OpenAq.NewestPages

/-!
# Measurements of the newest pages

The measurements of a sensor are made of the readings on its newest pages.  They are the newest
of those that all its readings make, and the only ones missing are those that unusable readings
on the newest pages keep out.
-/

namespace AirQuality.OpenAq

open Outcome
open Time (Moment)

variable {upstream : Request → Json} {parameters : List (String × Json)}

/-! ### Live and archived readings -/

/-- The key that a query gives, or else the one that the sensors of its location tell. -/
def keyOf (query : Query) : Work String :=
  match query.parameterKey with
  | some key => pure key
  | none => lookUpKey true query.stationId query.parameterId

variable {now : Moment} {query : Query} {key : String}

/-- Where the readings of a sensor are listed. -/
def sensorEndpoint (sensorId endpoint : String) : String := s!"sensors/{sensorId}/{endpoint}"

theorem answer_usable {fuel : Nat} {endpoint : String} {results : List Json}
    (hresults : Work.answer (fun request => .ok (upstream request))
      (latestResults fuel (sensorEndpoint query.parameterId endpoint) parameters
        query.limits.maxCount) = .ok results)
    {listed : List Record} (hrecords : results.mapM readingRecord = .ok listed) :
    Work.answer (fun request => .ok (upstream request))
        (usable now fuel query key parameters endpoint) =
      Measurement.ofRecords ⟨query.stationId, key, name⟩ now query.limits none listed := by
  have hlisted : Work.answer (fun request => .ok (upstream request))
      (records fuel query.parameterId endpoint parameters query.limits.maxCount) =
        .ok listed := by
    unfold records
    apply Work.answer_degrade_of_ok _
    unfold sensorEndpoint at hresults
    simp only [Work.answer_bind, hresults, ok_bind, Work.answer_lift, hrecords]
  simp only [usable, Work.answer_bind, hlisted, ok_bind, Work.answer_lift]
  cases Measurement.ofRecords ⟨query.stationId, key, name⟩ now query.limits none listed with
  | error failure => rfl
  | ok measurements =>
      simp only [ok_bind]
      split <;> rfl

theorem answer_measurements {fuel : Nat}
    (hkey : Work.answer (fun request => .ok (upstream request)) (keyOf query) = .ok key)
    (hparameters : ageParameters now query.limits = .ok parameters) :
    Work.answer (fun request => .ok (upstream request)) (measurements now true fuel query) =
      (do
        let live ← Work.answer (fun request => .ok (upstream request))
          (usable now fuel query key parameters "measurements")
        if live.isEmpty then
          Work.answer (fun request => .ok (upstream request))
            (usable now fuel query key parameters "hours")
        else .ok live) := by
  have hmeasurements : measurements now true fuel query = (do
      let key ← keyOf query
      let parameters ← Work.lift (ageParameters now query.limits)
      let live ← usable now fuel query key parameters "measurements"
      if live.isEmpty then usable now fuel query key parameters "hours" else pure live) := by
    simp only [measurements, withKey, if_true, keyOf]
    cases query.parameterKey <;> rfl
  rw [hmeasurements]
  simp only [Work.answer_bind, hkey, ok_bind, Work.answer_lift, hparameters]
  congr 1
  funext live
  split <;> simp

/-! ### The newest pages -/

/-- What the live endpoint of a sensor serves: all its readings on full pages, with an exact
total, in the order of time. -/
structure ServesReadings (upstream : Request → Json) (query : Query)
    (parameters : List (String × Json)) (pages : List (List Json)) (size : Nat)
    (records : List Record) (instants : List Int) : Prop where
  serves : ∃ found limit total,
    Serves upstream (sensorEndpoint query.parameterId "measurements") parameters pages found
        limit ∧
      (readCount limit pageLimit).1 = size ∧ exactTotal found = .ok total ∧
      totalValue? total = some (pages.flatten.length : Int)
  positive : 0 < size
  fills : FillsPages size pages
  listed : pages.flatten.mapM readingRecord = .ok records
  dated : Reading.Dated records instants

variable {pages : List (List Json)} {size : Nat} {listed : List Record} {instants : List Int}

/-- The live measurements are made of the readings on the newest pages. -/
theorem answer_usable_newest
    (hserves : ServesReadings upstream query parameters pages size listed instants)
    (hne : listed ≠ []) {wanted : Nat} (hcap : query.limits.maxCount = some (wanted : Int))
    (hwanted : 0 < wanted) (fuel : Nat) :
    Work.answer (fun request => .ok (upstream request))
        (usable now fuel query key parameters "measurements") =
      Measurement.ofRecords ⟨query.stationId, key, name⟩ now query.limits none
        (listed.drop (skipped listed.length size wanted)) := by
  obtain ⟨found, limit, total, hpages, hlimit, htotal, hvalue⟩ := hserves.serves
  have hlength : listed.length = pages.flatten.length := length_of_mapM hserves.listed
  have hpagesNe : pages ≠ [] := by
    rintro rfl
    exact hne (List.length_eq_zero_iff.mp hlength)
  have hresults := answer_latestResults_newest hpages hpagesNe hserves.fills hlimit
    hserves.positive htotal hvalue hwanted fuel
  rw [← hcap, ← hlength] at hresults
  exact answer_usable hresults (mapM_drop hserves.listed _)

/-! ### Single readings on pages -/

/-- A reading as an endpoint lists it. -/
def listedReading (record : Record) : Json :=
  .object [("period", .object [("datetimeTo", .object [("utc", record.timestamp)])]),
    ("value", record.value)]

/-- An upstream whose pages hold one reading each. -/
def singly (records : List Record) : Request → Json :=
  shelf (records.map fun record => [listedReading record]) (.int records.length) (.int 1)

theorem fillsPages_singly (records : List Record) :
    FillsPages 1 (records.map fun record => [listedReading record]) := by
  induction records with
  | nil => trivial
  | cons record rest ih =>
      cases rest with
      | nil => exact Nat.le_refl 1
      | cons next others => exact ⟨rfl, ih⟩

theorem flatten_singly (records : List Record) :
    (records.map fun record => [listedReading record]).flatten = records.map listedReading := by
  rw [← List.flatMap_def, List.map_eq_flatMap]

theorem servesReadings_singly {records : List Record} {moments : List Int}
    (hdated : Reading.Dated records moments) (query : Query)
    (hparameters : parameters.lookup "page" = none) :
    ServesReadings (singly records) query parameters
      (records.map fun record => [listedReading record]) 1 records moments where
  serves := by
    refine ⟨.int records.length, .int 1, .int records.length, ?_, by decide, rfl, ?_⟩
    · exact serves_shelf (by simp) _ _ _ hparameters
    · rw [flatten_singly, List.length_map]
      rfl
  positive := Nat.one_pos
  fills := fillsPages_singly records
  listed := by
    rw [flatten_singly, List.mapM_map]
    exact (mapM_ok id records).trans (by rw [List.map_id])
  dated := hdated

/-! ### Complete and incomplete answers -/

variable {τ : Type} [Add τ] [Sub τ] [OfNat τ 0] [LT τ] [LE τ] [DecidableLT τ] [DecidableLE τ]
  [TimeText τ]

/-- Let the readings of a sensor be served in the order of time, and let some of them make
measurements.  The answer consists of the newest of these measurements, as many as the pages read
hold readings that limits other than the cap let through, up to the sign of a zero, or comes from
the archive if there are none.  So it is complete exactly if those readings are enough, and in
particular if the pages read hold usable values only. -/
theorem measurements_newest_pages (fetcher : Fetcher τ) {remote : Remote τ}
    (hsupplies : remote.Supplies upstream)
    (hkey : Work.answer (fun request => .ok (upstream request)) (keyOf query) = .ok key)
    (hparameters : ageParameters now query.limits = .ok parameters) {wanted : Nat}
    (hcap : query.limits.maxCount = some (wanted : Int)) (hwanted : 0 < wanted)
    (hserves : ServesReadings upstream query parameters pages size listed instants)
    {full : List Measurement}
    (hfull : Measurement.ofRecords ⟨query.stationId, key, name⟩ now query.limits none listed =
      .ok full)
    (hne : full ≠ []) (fuel : Nat) (session : Session τ) (htoken : session.token = none) :
    let outcome :=
      ((measurements now true fuel query).perform (fetcher.fetch remote) session).1
    let archive := Work.answer (fun request => .ok (upstream request))
      (usable now fuel query key parameters "hours")
    let kept := listed.drop (skipped listed.length size wanted)
    ∃ recent,
      Reading.select now { query.limits with maxCount := none } none kept = .ok recent ∧
      outcome = (if recent = [] then archive
        else .ok ((full.take recent.length).map (Measurement.settleZero kept))) ∧
      (outcome = .ok full ↔
        if recent = [] then archive = .ok full
        else full.length ≤ recent.length ∧ full.map (Measurement.settleZero kept) = full) ∧
      ((∀ record ∈ kept, Reading.IsUsable record.value) → outcome = .ok full) := by
  intro outcome archive kept
  have hlistedNe : listed ≠ [] := by
    rintro rfl
    cases hfull
    exact hne rfl
  obtain ⟨readings, hselect, -⟩ := Measurement.ofRecords_eq_ok hfull
  obtain ⟨oldest, numbers, hcomparable⟩ :=
    Reading.exists_comparable_of_select hserves.dated hlistedNe hselect
  obtain ⟨recent, hrecent, hlength⟩ := Reading.exists_recent hserves.dated hcomparable
    (skipped listed.length size wanted)
  have houtcome : outcome = (do
      let live ← Measurement.ofRecords ⟨query.stationId, key, name⟩ now query.limits none kept
      if live.isEmpty then archive else .ok live) := by
    calc
      outcome = Work.answer (fun request => .ok (upstream request))
          (measurements now true fuel query) :=
        fetcher.perform_of_supplies hsupplies _ session htoken
      _ = _ := by
        rw [answer_measurements hkey hparameters,
          answer_usable_newest hserves hlistedNe hcap hwanted fuel]
  have hlive : Measurement.ofRecords ⟨query.stationId, key, name⟩ now query.limits none kept =
      .ok ((full.take recent.length).map (Measurement.settleZero kept)) := by
    rw [hlength]
    exact Measurement.ofRecords_drop hserves.dated hcomparable _ hfull
  have hlaw : outcome = if recent = [] then archive
      else .ok ((full.take recent.length).map (Measurement.settleZero kept)) := by
    rw [houtcome, hlive, ok_bind]
    by_cases hnone : recent = []
    · simp [hnone]
    · have hsome :
          ((full.take recent.length).map (Measurement.settleZero kept)).isEmpty = false := by
        simp [hne, hnone]
      rw [hsome, if_neg hnone]
      rfl
  refine ⟨recent, hrecent, hlaw, ?_, ?_⟩
  · rw [hlaw]
    split
    · exact Iff.rfl
    · rw [Except.ok.injEq]
      exact Measurement.map_settleZero_take_eq_iff recent.length
  · intro husable
    have henough : skipped listed.length size wanted = 0 ∨
        (wanted : Int).toNat ≤ kept.length := by
      rw [List.length_drop]
      exact skipped_eq_zero_or_le _ _ _
    rw [houtcome, Measurement.ofRecords_drop_of_isUsable hserves.dated hcomparable hcap husable
      henough hfull, ok_bind, if_neg (by simpa using hne)]

/-- Three readings of a morning. -/
def morning : List Record :=
  [⟨.text "2025-06-01T08:00:00Z", .float 1⟩, ⟨.text "2025-06-01T09:00:00Z", .float 2⟩,
    ⟨.text "2025-06-01T10:00:00Z", .float 3⟩]

theorem dated_morning : Reading.Dated morning
    [1748764800000000000, 1748768400000000000, 1748772000000000000] where
  texts := by simp [morning, Column.AreTexts]
  present := rfl
  increasing := by decide

/-- The measurement of a morning hour. -/
def hourly (value : Float) (micros : Int) : Measurement :=
  ⟨.float value, Moment.atUtc micros, "1", "PM10", name⟩

/-- Of three readings on pages of their own the newest one is found. -/
theorem measurements_newest_pages_morning :
    ((measurements default true 0 ⟨"1", "7", ⟨some 1, none⟩, some "PM10"⟩).perform
        ((⟨name, 0, 0, 0, .whole 10⟩ : Fetcher Float).fetch
          (Remote.ofUpstream (singly morning))) (Session.start 0)).1 =
      .ok [hourly 3 1748772000000000] := by
  have hserves := servesReadings_singly dated_morning ⟨"1", "7", ⟨some 1, none⟩, some "PM10"⟩
    (rfl : List.lookup "page" [] = none)
  have hfull : Measurement.ofRecords ⟨"1", "PM10", name⟩ default ⟨some 1, none⟩ none morning =
      .ok [hourly 3 1748772000000000] := by
    rw [Measurement.ofRecords, Reading.select_of_comparable dated_morning ⟨rfl, by simp, rfl⟩]
    rfl
  obtain ⟨recent, -, -, -, hcomplete⟩ := measurements_newest_pages
    (⟨name, 0, 0, 0, .whole 10⟩ : Fetcher Float) (Remote.supplies_ofUpstream (singly morning))
    rfl rfl rfl Nat.one_pos hserves hfull (by simp) 0 (Session.start 0) rfl
  apply hcomplete
  intro record hrecord
  rw [List.mem_singleton.mp hrecord]
  exact ⟨3, rfl, by decide, rfl⟩

/-- The morning with a fourth reading that has no value. -/
def longerMorning : List Record := morning ++ [⟨.text "2025-06-01T11:00:00Z", .null⟩]

theorem dated_longerMorning : Reading.Dated longerMorning
    [1748764800000000000, 1748768400000000000, 1748772000000000000, 1748775600000000000] where
  texts := by simp [longerMorning, morning, Column.AreTexts]
  present := rfl
  increasing := by decide

/-- The reading without a value costs one of the two newest measurements. -/
theorem measurements_newest_pages_incomplete :
    ((measurements default true 0 ⟨"1", "7", ⟨some 2, none⟩, some "PM10"⟩).perform
        ((⟨name, 0, 0, 0, .whole 10⟩ : Fetcher Float).fetch
          (Remote.ofUpstream (singly longerMorning))) (Session.start 0)).1 =
        .ok [hourly 3 1748772000000000] ∧
      Measurement.ofRecords ⟨"1", "PM10", name⟩ default ⟨some 2, none⟩ none longerMorning =
        .ok [hourly 3 1748772000000000, hourly 2 1748768400000000] := by
  have hcomparable : Reading.Comparable default ⟨some 2, none⟩ longerMorning none
      [1, 2, 3, Decimal.notANumber] := ⟨rfl, by simp, rfl⟩
  have hserves := servesReadings_singly dated_longerMorning
    ⟨"1", "7", ⟨some 2, none⟩, some "PM10"⟩ (rfl : List.lookup "page" [] = none)
  have hlive : Measurement.ofRecords ⟨"1", "PM10", name⟩ default ⟨some 2, none⟩ none
      (longerMorning.drop (skipped longerMorning.length 1 2)) =
        .ok [hourly 3 1748772000000000] := by
    rw [Measurement.ofRecords,
      Reading.select_drop_of_comparable dated_longerMorning hcomparable]
    rfl
  constructor
  · rw [Fetcher.perform_of_supplies _ (Remote.supplies_ofUpstream _) _ _ rfl,
      answer_measurements rfl rfl,
      answer_usable_newest hserves (by simp [longerMorning]) rfl (by decide) 0, hlive]
    rfl
  · rw [Measurement.ofRecords, Reading.select_of_comparable dated_longerMorning hcomparable]
    rfl

end AirQuality.OpenAq
