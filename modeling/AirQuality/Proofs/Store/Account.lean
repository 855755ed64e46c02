import AirQuality.Proofs.Answers
import AirQuality.Proofs.Outcome
import AirQuality.Store.Snapshot

/-!
# What a snapshot is made of

A snapshot has a record for each station in the region, for each parameter these stations are
answered to have, and for each measurement these parameters are answered to have, in the order of
the answers.  It fails if one of the calls fails, or if an answer has no record.
-/

namespace AirQuality

/-! ### What the answers say -/

namespace Answer

/-- The station whose parameters were asked for. -/
def station? : Answer → Option String
  | parameters stationId _ => some stationId
  | _ => none

/-- The parameters that were listed, each with its station. -/
def parametersListed : Answer → List (String × Parameter)
  | parameters stationId (.ok listed) => listed.map fun parameter => (stationId, parameter)
  | _ => []

/-- The query for measurements. -/
def query? : Answer → Option Query
  | measurements query _ => some query
  | _ => none

/-- The measurements that were listed, each with the id of its parameter. -/
def measurementsListed : Answer → List (String × Measurement)
  | measurements query (.ok listed) =>
    listed.map fun measurement => (query.parameterId, measurement)
  | _ => []

end Answer

namespace Store

open Outcome
open Time (Moment)

def parameterRecord (now : Moment) (listed : String × Parameter) : Except Failure ParameterRecord :=
  ParameterRecord.ofParameter now listed.1 listed.2

def measurementRecord (now : Moment) (listed : String × Measurement) :
    Except Failure MeasurementRecord :=
  MeasurementRecord.ofMeasurement now listed.1 listed.2

/-- The query for the measurements of a parameter of a station. -/
def queryFor (limits : Limits) (listed : String × Parameter) : Query :=
  ⟨listed.1, listed.2.id, limits, listed.2.canonicalKey.toOption⟩

/-- A snapshot is that of some stations, of some parameters and of the measurements in the answers
told; the parameters of each station and the measurements of each parameter were asked for. -/
structure Describes (now : Moment) (limits : Limits) (visited : List Station)
    (offered : List (String × Parameter)) (told : List Answer) (snapshot : Snapshot) :
    Prop where
  stations : snapshot.stations = visited.map (StationRecord.ofStation now)
  parameters : offered.mapM (parameterRecord now) = .ok snapshot.parameters
  measurements : (told.flatMap Answer.measurementsListed).mapM (measurementRecord now) =
    .ok snapshot.measurements
  asked : told.filterMap Answer.station? = visited.map (·.id)
  queries : told.filterMap Answer.query? = offered.map (queryFor limits)

/-- What collecting comes to, given the answers told. -/
structure Account (now : Moment) (limits : Limits) (visited : List Station)
    (offered : List (String × Parameter)) (told : List Answer)
    (result : Except Failure Snapshot) : Prop where
  /-- A call that fails is the failure of it all. -/
  failed {answer : Answer} {failure : Failure} (hmem : answer ∈ told)
    (hfailure : answer.failure? = some failure) : result = .error failure
  done {snapshot : Snapshot} (hdone : result = .ok snapshot) :
    Describes now limits visited offered told snapshot
  /-- Nothing fails but calls and records. -/
  blame {failure : Failure} (herror : result = .error failure) :
    (∃ answer ∈ told, answer.failure? = some failure) ∨
      (∃ listed ∈ offered, parameterRecord now listed = .error failure) ∨
      ∃ listed ∈ told.flatMap Answer.measurementsListed,
        measurementRecord now listed = .error failure

section

variable {now : Moment} {limits : Limits} {visited others : List Station}
  {offered further : List (String × Parameter)} {told later : List Answer}
  {first second : Snapshot}

theorem Describes.append (hfirst : Describes now limits visited offered told first)
    (hsecond : Describes now limits others further later second) :
    Describes now limits (visited ++ others) (offered ++ further)
      (told ++ later) (first.append second) where
  stations := by
    rw [List.map_append, ← hfirst.stations, ← hsecond.stations]
    rfl
  parameters := by
    rw [List.mapM_append, hfirst.parameters, hsecond.parameters]
    rfl
  measurements := by
    rw [List.flatMap_append, List.mapM_append, hfirst.measurements, hsecond.measurements]
    rfl
  asked := by rw [List.filterMap_append, List.map_append, hfirst.asked, hsecond.asked]
  queries := by rw [List.filterMap_append, List.map_append, hfirst.queries, hsecond.queries]

theorem describes_empty (now : Moment) (limits : Limits) :
    Describes now limits [] [] [] .empty := ⟨rfl, rfl, rfl, rfl, rfl⟩

theorem account_empty (now : Moment) (limits : Limits) :
    Account now limits [] [] [] (.ok .empty) where
  failed hmem := nomatch hmem
  done hdone := by
    obtain rfl := Except.ok.inj hdone
    exact describes_empty now limits
  blame herror := nomatch herror

/-- A failure is the same failure with more to be done. -/
theorem Account.of_error {failure : Failure}
    (haccount : Account now limits visited offered told (.error failure))
    (hsubset : offered ⊆ further) :
    Account now limits others further told (.error failure) where
  failed := haccount.failed
  done hdone := nomatch hdone
  blame herror := by
    rcases haccount.blame herror with hcall | ⟨listed, hmem, hrecord⟩ | hmeasurement
    · exact .inl hcall
    · exact .inr (.inl ⟨listed, hsubset hmem, hrecord⟩)
    · exact .inr (.inr hmeasurement)

theorem Account.append {result : Except Failure Snapshot}
    (hfirst : Account now limits visited offered told (.ok first))
    (hsecond : Account now limits others further later result) :
    Account now limits (visited ++ others) (offered ++ further)
      (told ++ later) (first.append <$> result) where
  failed {answer failure} hmem hfailure := by
    cases List.mem_append.mp hmem with
    | inl htold => cases hfirst.failed htold hfailure
    | inr hmore => rw [hsecond.failed hmore hfailure]; rfl
  done {snapshot} hdone := by
    cases result with
    | error failure => cases hdone
    | ok second =>
        obtain rfl := Except.ok.inj hdone
        exact (hfirst.done rfl).append (hsecond.done rfl)
  blame {failure} herror := by
    cases result with
    | ok second => cases herror
    | error other =>
        obtain rfl := Except.error.inj herror
        rcases hsecond.blame rfl with ⟨answer, hmem, hfailure⟩ | ⟨listed, hmem, hrecord⟩ |
          ⟨listed, hmem, hrecord⟩
        · exact .inl ⟨answer, List.mem_append_right told hmem, hfailure⟩
        · exact .inr (.inl ⟨listed, List.mem_append_right offered hmem, hrecord⟩)
        · rw [List.flatMap_append]
          exact .inr (.inr ⟨listed, List.mem_append_right _ hmem, hrecord⟩)

end

/-! ### Collecting -/

section

variable {ω α : Type} {conduct : Conduct ω}

open Conduct (Relates)

/-- Visits one after the other come to the snapshots of all of them. -/
theorem relates_mapM {P : List α → List Answer → Except Failure Snapshot → Prop}
    {visit : α → ExceptT Failure (StateM (Stage ω)) Snapshot} (hnil : P [] [] (.ok .empty))
    (hvisit : ∀ item, conduct.Relates (P [item]) (visit item))
    (hfailed : ∀ item rest told failure, P [item] told (.error failure) →
      P (item :: rest) told (.error failure))
    (hcons : ∀ item rest told others first result, P [item] told (.ok first) →
      P rest others result → P (item :: rest) (told ++ others) (first.append <$> result))
    (items : List α) :
    conduct.Relates (fun told result => P items told (Snapshot.join <$> result))
      (items.mapM visit) := by
  induction items with
  | nil => exact Relates.pure hnil
  | cons item rest ih =>
      rw [List.mapM_cons]
      apply Relates.bind (hvisit item) (Q := fun first others result =>
        ∀ told, P [item] told (.ok first) →
          P (item :: rest) (told ++ others) (Snapshot.join <$> result))
      · intro first
        apply Relates.bind ih (Q := fun parts others result =>
          others = [] ∧ result = .ok (first :: parts))
        · exact fun parts => Relates.pure ⟨rfl, rfl⟩
        · exact fun others failure hrest told hfirst =>
            hcons item rest told others first _ hfirst hrest
        · rintro others _ parts _ hrest ⟨rfl, rfl⟩ told hfirst
          rw [List.append_nil]
          exact hcons item rest told others first _ hfirst hrest
      · exact fun told failure hfirst => hfailed item rest told failure hfirst
      · exact fun told others first result hfirst hrest => hrest told hfirst

variable (conduct) (now : Moment) (limits : Limits)

section

variable {now limits} {station : Station} {parameter : Parameter} {record : ParameterRecord}
  {failure : Failure}

theorem account_of_no_record
    (hrecord : ParameterRecord.ofParameter now station.id parameter = .error failure) :
    Account now limits [] [(station.id, parameter)] [] (.error failure) where
  failed hmem := nomatch hmem
  done hdone := nomatch hdone
  blame herror := by
    obtain rfl := Except.error.inj herror
    exact .inr (.inl ⟨_, List.mem_singleton.mpr rfl, hrecord⟩)

/-- A call that fails is all there is to tell. -/
theorem account_of_failure {visited : List Station} {offered : List (String × Parameter)}
    {answer : Answer} (hfailure : answer.failure? = some failure) :
    Account now limits visited offered [answer] (.error failure) where
  failed {other given} hmem hgiven := by
    obtain rfl := List.mem_singleton.mp hmem
    rw [Option.some.inj (hfailure.symm.trans hgiven)]
  done hdone := nomatch hdone
  blame herror := by
    obtain rfl := Except.error.inj herror
    exact .inl ⟨answer, List.mem_singleton.mpr rfl, hfailure⟩

theorem account_of_measurements
    (hrecord : ParameterRecord.ofParameter now station.id parameter = .ok record)
    (measurements : List Measurement) :
    Account now limits [] [(station.id, parameter)]
      [.measurements ⟨station.id, parameter.id, limits, some record.canonicalKey⟩
        (.ok measurements)]
      ((fun rows => ⟨[], [record], rows⟩) <$>
        measurements.mapM (MeasurementRecord.ofMeasurement now parameter.id)) where
  failed {answer failure} hmem hfailure := by
    obtain rfl := List.mem_singleton.mp hmem
    cases hfailure
  done {snapshot} hdone := by
    obtain ⟨key, hkey, hdone'⟩ := bind_eq_ok hrecord
    obtain rfl := Except.ok.inj hdone'
    obtain ⟨rows, hrows, hsnapshot⟩ := bind_eq_ok hdone
    obtain rfl := Except.ok.inj hsnapshot
    refine ⟨rfl, ?_, ?_, rfl, ?_⟩
    · rw [List.mapM_cons, parameterRecord, hrecord]
      rfl
    · simp only [List.flatMap_singleton, Answer.measurementsListed, List.mapM_map]
      exact hrows
    · simp only [List.filterMap_cons, Answer.query?, List.filterMap_nil, List.map_singleton,
        queryFor, hkey]
      rfl
  blame {failure} herror := by
    right
    right
    rcases bind_eq_error herror with hrows | ⟨rows, -, hnone⟩
    · obtain ⟨measurement, hmem, hfailed⟩ := exists_mem_of_mapM_eq_error hrows
      refine ⟨(parameter.id, measurement), ?_, hfailed⟩
      rw [List.flatMap_singleton]
      exact List.mem_map_of_mem hmem
    · cases hnone

end

theorem ofParameter_relates (station : Station) (parameter : Parameter) :
    conduct.Relates (Account now limits [] [(station.id, parameter)])
      (Snapshot.ofParameter now conduct.source limits station parameter) := by
  apply Relates.bind (Relates.lift_eq (ParameterRecord.ofParameter now station.id parameter))
    (Q := fun record told result =>
      ParameterRecord.ofParameter now station.id parameter = .ok record →
        Account now limits [] [(station.id, parameter)] told result)
  · intro record
    let query : Query := ⟨station.id, parameter.id, limits, some record.canonicalKey⟩
    apply Relates.bind (Relates.measurements conduct query
      (R := fun told outcome => told = [.measurements query outcome]) fun _ => rfl)
      (Q := fun measurements told result => told = [] ∧
        result = (fun rows => ⟨[], [record], rows⟩) <$>
          measurements.mapM (MeasurementRecord.ofMeasurement now parameter.id))
    · intro measurements
      apply Relates.bind (Relates.lift_eq
        (measurements.mapM (MeasurementRecord.ofMeasurement now parameter.id)))
        (Q := fun rows told result => told = [] ∧ result = .ok ⟨[], [record], rows⟩)
      · exact fun rows => Relates.pure ⟨rfl, rfl⟩
      · rintro told failure ⟨htold, hrows⟩
        exact ⟨htold, by rw [← hrows]; rfl⟩
      · rintro told others rows result ⟨rfl, hrows⟩ ⟨rfl, rfl⟩
        exact ⟨rfl, by rw [← hrows]; rfl⟩
    · rintro told failure rfl -
      exact account_of_failure rfl
    · rintro told others measurements result rfl ⟨rfl, rfl⟩ hrecord
      exact account_of_measurements hrecord measurements
  · rintro told failure ⟨rfl, hrecord⟩
    exact account_of_no_record hrecord.symm
  · rintro told others record result ⟨rfl, hrecord⟩ hnext
    exact hnext hrecord.symm

variable {now limits} in
theorem account_of_parameters (station : Station) (parameters : List Parameter) :
    Account now limits [station] [] [.parameters station.id (.ok parameters)]
      (.ok ⟨[StationRecord.ofStation now station], [], []⟩) where
  failed {answer failure} hmem hfailure := by
    obtain rfl := List.mem_singleton.mp hmem
    cases hfailure
  done {snapshot} hdone := by
    obtain rfl := Except.ok.inj hdone
    exact ⟨rfl, rfl, rfl, rfl, rfl⟩
  blame herror := nomatch herror

theorem parametersListed_eq_nil {told : List Answer}
    (hasked : told.filterMap Answer.station? = []) :
    told.flatMap Answer.parametersListed = [] := by
  rw [List.filterMap_eq_nil_iff] at hasked
  rw [List.flatMap_eq_nil_iff]
  intro answer hmem
  cases answer with
  | stations outcome => rfl
  | parameters stationId outcome => cases hasked _ hmem
  | measurements query outcome => rfl

theorem ofParameters_relates (station : Station) (parameters : List Parameter) :
    conduct.Relates
      (fun told result => Account now limits []
        (parameters.map fun parameter => (station.id, parameter)) told (Snapshot.join <$> result))
      (parameters.mapM (Snapshot.ofParameter now conduct.source limits station)) := by
  apply relates_mapM (P := fun parameters told result => Account now limits []
    (parameters.map fun parameter => (station.id, parameter)) told result)
  · exact account_empty now limits
  · exact ofParameter_relates conduct now limits station
  · intro parameter rest told failure haccount
    apply haccount.of_error
    simp
  · intro parameter rest told others first result hfirst hrest
    exact hfirst.append hrest

theorem ofStation_relates (station : Station) :
    conduct.Relates
      (fun told result =>
        Account now limits [station] (told.flatMap Answer.parametersListed) told result)
      (Snapshot.ofStation now conduct.source limits station) := by
  apply Relates.bind (Relates.parameters conduct station.id
    (R := fun told outcome => told = [.parameters station.id outcome]) fun _ => rfl)
    (Q := fun parameters told result => Account now limits [station]
      (parameters.map fun parameter => (station.id, parameter))
      (.parameters station.id (.ok parameters) :: told) result)
  · intro parameters
    apply Relates.bind (ofParameters_relates conduct now limits station parameters)
      (Q := fun parts told result => told = [] ∧ result = .ok (Snapshot.append
        ⟨[StationRecord.ofStation now station], [], []⟩ (Snapshot.join parts)))
    · exact fun parts => Relates.pure ⟨rfl, rfl⟩
    · intro told failure haccount
      exact (account_of_parameters station parameters).append haccount
    · rintro told others parts result haccount ⟨rfl, rfl⟩
      rw [List.append_nil]
      exact (account_of_parameters station parameters).append haccount
  · rintro told failure rfl
    exact account_of_failure rfl
  · rintro told others parameters result rfl haccount
    cases result with
    | error failure =>
        apply haccount.of_error
        exact List.subset_append_left _ _
    | ok snapshot =>
        -- No further station was asked for its parameters.
        have hasked := (haccount.done rfl).asked
        have hothers : others.flatMap Answer.parametersListed = [] :=
          parametersListed_eq_nil (List.cons.inj hasked).2
        rw [List.flatMap_append, hothers, List.append_nil, List.flatMap_singleton]
        exact haccount

theorem ofStations_relates (stations : List Station) :
    conduct.Relates
      (fun told result => Account now limits stations (told.flatMap Answer.parametersListed) told
        (Snapshot.join <$> result))
      (stations.mapM (Snapshot.ofStation now conduct.source limits)) := by
  apply relates_mapM (P := fun stations told result =>
    Account now limits stations (told.flatMap Answer.parametersListed) told result)
  · exact account_empty now limits
  · exact ofStation_relates conduct now limits
  · intro station rest told failure haccount
    exact haccount.of_error (List.Subset.refl _)
  · intro station rest told others first result hfirst hrest
    rw [List.flatMap_append]
    exact hfirst.append hrest

/-- What collecting from a source comes to: the stations are not listed, or one of them cannot be
told to be in the region or not, or those in the region are visited. -/
inductive Collected (region : Option Region) : List Answer → Except Failure Snapshot → Prop where
  | unlisted (failure : Failure) :
    Collected region [.stations (.error failure)] (.error failure)
  | unplaced (listed : List Station) (failure : Failure)
    (hwanted : Snapshot.wanted region listed = .error failure) :
    Collected region [.stations (.ok listed)] (.error failure)
  | visited (listed stations : List Station) (told : List Answer)
    (result : Except Failure Snapshot) (hwanted : Snapshot.wanted region listed = .ok stations)
    (haccount : Account now limits stations (told.flatMap Answer.parametersListed) told result) :
    Collected region (.stations (.ok listed) :: told) result

theorem collect_relates (region : Option Region) :
    conduct.Relates (Collected now limits region)
      (Snapshot.collect now conduct.source region limits) := by
  apply Relates.bind (Relates.stations conduct
    (R := fun told outcome => told = [.stations outcome]) fun _ => rfl)
    (Q := fun listed told result =>
      Collected now limits region (.stations (.ok listed) :: told) result)
  · intro listed
    apply Relates.bind (Relates.lift_eq (Snapshot.wanted region listed))
      (Q := fun stations told result => Snapshot.wanted region listed = .ok stations →
        Collected now limits region (.stations (.ok listed) :: told) result)
    · intro stations
      apply Relates.bind (ofStations_relates conduct now limits stations)
        (Q := fun parts told result => told = [] ∧ result = .ok (Snapshot.join parts))
      · exact fun parts => Relates.pure ⟨rfl, rfl⟩
      · intro told failure haccount hwanted
        exact .visited listed stations told _ hwanted haccount
      · rintro told others parts result haccount ⟨rfl, rfl⟩ hwanted
        rw [List.append_nil]
        exact .visited listed stations told _ hwanted haccount
    · rintro told failure ⟨rfl, hwanted⟩
      exact .unplaced listed failure hwanted.symm
    · rintro told others stations result ⟨rfl, hwanted⟩ hnext
      exact hnext hwanted.symm
  · rintro told failure rfl
    exact .unlisted failure
  · rintro told others listed result rfl hnext
    exact hnext

end

end Store

end AirQuality
