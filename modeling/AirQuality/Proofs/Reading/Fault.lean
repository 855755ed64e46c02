import AirQuality.Measurement
import AirQuality.Proofs.Reading.Column

/-!
# Records that no measurements can be made of

Measurements can be made of any records but a few.  A value may be a whole number that no binary64
number is close to; timestamps may all be flags, which are on no particular clock, so that a limit
cannot be compared with them; and a reading that is let through may lie beyond the calendar.
Everything else that a provider may write in a record is read, or the record is passed over.
-/

namespace AirQuality

open Outcome
open Time (Moment)

namespace Column

/-- Only a column of flags counts as one. -/
theorem surveyFrom_eq_flag {all : List Json} {survey : Survey} {cells : List Json}
    (hkind : surveyFrom all survey cells = .flag) :
    survey.hasNumbers = false ∧ survey.nulls = false ∧
      ∀ cell ∈ cells, ∃ flag, cell = .bool flag := by
  induction cells generalizing survey with
  | nil =>
      unfold surveyFrom Survey.kind at hkind
      split at hkind
      case isTrue =>
        split at hkind
        case isTrue => cases hkind
        case isFalse hnone =>
          obtain ⟨hnumbers, hnulls⟩ := Bool.or_eq_false_iff.mp (Bool.eq_false_iff.mpr hnone)
          exact ⟨hnumbers, hnulls, List.forall_mem_nil _⟩
      case isFalse =>
        split at hkind
        · cases hkind
        · split at hkind <;> cases hkind
  | cons cell rest ih =>
      cases cell with
      | null =>
          obtain ⟨-, hnulls, -⟩ := ih hkind
          cases hnulls
      | bool value =>
          obtain ⟨hnumbers, hnulls, hrest⟩ := ih hkind
          exact ⟨hnumbers, hnulls, List.forall_mem_cons.mpr ⟨⟨value, rfl⟩, hrest⟩⟩
      | float value =>
          simp only [surveyFrom] at hkind
          obtain ⟨hnumbers, -, -⟩ := ih hkind
          split at hnumbers <;> simp [Survey.hasNumbers] at hnumbers
      | int value =>
          simp only [surveyFrom] at hkind
          cases hadd : survey.addWhole? value with
          | none =>
              rw [hadd] at hkind
              cases hkind
          | some next =>
              rw [hadd] at hkind
              obtain ⟨hnumbers, -, -⟩ := ih hkind
              simp only [Survey.addWhole?] at hadd
              split at hadd
              · cases hadd
              · cases hadd
                simp [Survey.hasNumbers] at hnumbers
      | text value =>
          simp only [surveyFrom, kindWithOthers] at hkind
          split at hkind <;> cases hkind
      | list items =>
          simp only [surveyFrom, kindWithOthers] at hkind
          split at hkind <;> cases hkind
      | object fields =>
          simp only [surveyFrom, kindWithOthers] at hkind
          split at hkind <;> cases hkind

/-- Flags make up a column of flags. -/
theorem surveyFrom_of_flags {all : List Json} {survey : Survey} {cells : List Json}
    (hflags : ∀ cell ∈ cells, ∃ flag, cell = .bool flag) (hnumbers : survey.hasNumbers = false)
    (hnulls : survey.nulls = false) (hsome : survey.flags = true ∨ cells ≠ []) :
    surveyFrom all survey cells = .flag := by
  induction cells generalizing survey with
  | nil =>
      have hflag : survey.flags = true := hsome.resolve_right fun hne => hne rfl
      simp only [surveyFrom, Survey.kind, hflag, hnumbers, hnulls, Bool.or_false,
        Bool.false_eq_true, if_true, if_false]
  | cons cell rest ih =>
      obtain ⟨flag, rfl⟩ := hflags cell List.mem_cons_self
      exact ih (fun other hother => hflags other (List.mem_cons_of_mem _ hother)) hnumbers hnulls
        (.inl rfl)

theorem instants_of_flags {cells : List Json} (hne : cells ≠ [])
    (hflags : ∀ cell ∈ cells, ∃ flag, cell = .bool flag) :
    (Column.instants (ofCells cells).1 (ofCells cells).2).1 = .naiveInstants :=
  if_pos (surveyFrom_of_flags hflags rfl rfl (.inr hne))

theorem instants_eq_naive {cells : List Json} {instants : List (Option Int)}
    (hinstants : Column.instants (ofCells cells).1 (ofCells cells).2 = (.naiveInstants, instants)) :
    ∀ cell ∈ cells, ∃ flag, cell = .bool flag := by
  have hkind : (ofCells cells).1 = .flag := by
    have hfirst := congrArg Prod.fst hinstants
    simp only [Column.instants] at hfirst
    split at hfirst
    case isTrue hflag => exact hflag
    case isFalse => cases hfirst
  exact (surveyFrom_eq_flag hkind).2.2

theorem numbers_eq_error {cells : List Json} {failure : Failure}
    (hfailed : numbers cells = .error failure) :
    failure = .table .numberTooLarge ∧
      ∃ value, Json.int value ∈ cells ∧ Decimal.ofInt? value = none := by
  unfold numbers at hfailed
  rcases bind_eq_error hfailed with hcells | ⟨values, -, hdone⟩
  · obtain ⟨cell, hmem, hcell⟩ := exists_mem_of_mapM_eq_error hcells
    unfold numberOf at hcell
    split at hcell
    · cases hcell
    case h_2 value =>
      cases hlarge : Decimal.ofInt? value with
      | some number =>
          rw [hlarge] at hcell
          cases hcell
      | none =>
          rw [hlarge] at hcell
          cases hcell
          exact ⟨rfl, value, hmem, hlarge⟩
    · cases hcell
  · cases hdone

end Column

namespace Reading

variable {now : Moment} {limits : Limits} {last : Option Moment} {records : List Record}
  {failure : Failure}

/-- Why no measurements can be made of records, with the failure that says so. -/
inductive Fault (now : Moment) (limits : Limits) (last : Option Moment) (records : List Record) :
    Failure → Prop
  | number (value : Int) (hvalue : Json.int value ∈ records.map (·.value))
      (hlarge : Decimal.ofInt? value = none) :
      Fault now limits last records (.table .numberTooLarge)
  | clock (hrecords : records ≠ [])
      (hflags : ∀ record ∈ records, ∃ flag, record.timestamp = .bool flag)
      (hlimit : limits.maxAgeDays ≠ none ∨ last ≠ none) :
      Fault now limits last records (.table (.incomparableInstants false true))
  | year (readings : List Reading) (hselect : select now limits last records = .ok readings)
      (reading : Reading) (hmem : reading ∈ readings)
      (hbeyond : Time.inCalendar (reading.instant / 1000) = false) :
      Fault now limits last records
        (.table (.yearOutOfRange (Time.yearOf (reading.instant / 1000))))

theorem limitInstant_eq_error {kind : Column.Kind} {limit : Moment} (haware : limit.isNaive = false)
    (hfailed : limitInstant kind limit = .error failure) :
    kind = .naiveInstants ∧ failure = .table (.incomparableInstants false true) := by
  unfold limitInstant at hfailed
  by_cases hkind : kind = .naiveInstants
  · subst hkind
    rw [haware] at hfailed
    simp only [decide_true, Bool.false_eq_true, reduceCtorEq, decide_false] at hfailed
    cases hfailed
    exact ⟨rfl, rfl⟩
  · simp [haware, hkind] at hfailed

theorem within_eq_error {holds : (instant limit : Int) → Bool} {kind : Column.Kind}
    {limit : Option Moment} {readings : List Reading}
    (haware : ∀ moment ∈ limit, moment.isNaive = false)
    (hfailed : within holds kind limit readings = .error failure) :
    limit ≠ none ∧ kind = .naiveInstants ∧
      failure = .table (.incomparableInstants false true) := by
  cases limit with
  | none => cases hfailed
  | some moment =>
      unfold within at hfailed
      rcases bind_eq_error hfailed with hlimit | ⟨instant, -, hdone⟩
      · exact ⟨nofun, limitInstant_eq_error (haware moment rfl) hlimit⟩
      · cases hdone

theorem isNaive_of_daysBefore {days : Decimal.Number} {moment : Moment}
    (hbefore : now.daysBefore days = .ok moment) : moment.isNaive = now.isNaive := by
  unfold Moment.daysBefore at hbefore
  cases hspan : Time.span days with
  | error other =>
      rw [hspan] at hbefore
      cases hbefore
  | ok micros =>
      rw [hspan, ok_bind] at hbefore
      unfold Moment.before at hbefore
      simp only at hbefore
      split at hbefore
      · cases hbefore
        rfl
      · cases hbefore

/-- The cutoff of an age limit lies that many days back. -/
theorem exists_daysBefore_of_cutoff {oldest : Option Moment} {days : Decimal.Number}
    (hdays : limits.maxAgeDays = some days) (hcutoff : cutoff now limits = .ok oldest) :
    ∃ moment, oldest = some moment ∧ now.daysBefore days = .ok moment := by
  unfold cutoff at hcutoff
  rw [hdays] at hcutoff
  obtain ⟨moment, hbefore, hsome⟩ := bind_eq_ok hcutoff
  exact ⟨moment, (Except.ok.inj hsome).symm, hbefore⟩

/-- A cutoff comes from an age limit and is as aware of its distance from UTC as the present. -/
theorem of_cutoff {oldest : Option Moment} (hcutoff : cutoff now limits = .ok oldest) :
    (oldest = none ↔ limits.maxAgeDays = none) ∧
      ∀ moment ∈ oldest, moment.isNaive = now.isNaive := by
  cases hdays : limits.maxAgeDays with
  | none =>
      unfold cutoff at hcutoff
      rw [hdays] at hcutoff
      cases hcutoff
      exact ⟨iff_of_true rfl rfl, nofun⟩
  | some days =>
      obtain ⟨moment, rfl, hbefore⟩ := exists_daysBefore_of_cutoff hdays hcutoff
      refine ⟨iff_of_false nofun nofun, fun other hother => ?_⟩
      obtain rfl := Option.some.inj hother
      exact isNaive_of_daysBefore hbefore

/-- The steps of a selection among some records. -/
theorem select_eq {oldest : Option Moment} (hcutoff : cutoff now limits = .ok oldest)
    (hne : records ≠ []) :
    select now limits last records =
      let instants := Column.instants (Column.ofCells (records.map (·.timestamp))).1
        (Column.ofCells (records.map (·.timestamp))).2
      (do
        let numbers ← Column.numbers (records.map (·.value))
        let readings ← notAfter instants.1 last
          ((List.zipWith ofCells? instants.2 numbers).filterMap id)
        let readings ← newerThan instants.1 oldest readings
        pure (capped limits.maxCount (newestFirst readings))) := by
  have hsome : records.isEmpty = false := List.isEmpty_eq_false_iff.mpr hne
  simp only [select, hsome, Bool.false_eq_true, if_false, hcutoff, ok_bind, ofColumns,
    Column.numbers_ofCells, bind_assoc, pure_eq_ok]

variable {oldest : Option Moment}

/-- A selection fails at a number or at a limit. -/
theorem fault_of_select (haware : now.isNaive = false)
    (hlast : ∀ moment ∈ last, moment.isNaive = false) (hcutoff : cutoff now limits = .ok oldest)
    (hfailed : select now limits last records = .error failure) :
    Fault now limits last records failure := by
  obtain ⟨hage, hoffset⟩ := of_cutoff hcutoff
  have hne : records ≠ [] := by
    rintro rfl
    cases hfailed
  have hflags : ∀ {kind instants},
      Column.instants (Column.ofCells (records.map (·.timestamp))).1
        (Column.ofCells (records.map (·.timestamp))).2 = (kind, instants) →
      kind = .naiveInstants → ∀ record ∈ records, ∃ flag, record.timestamp = .bool flag := by
    intro kind instants hinstants hkind record hrecord
    rw [hkind] at hinstants
    exact Column.instants_eq_naive hinstants _ (List.mem_map_of_mem hrecord)
  rw [select_eq hcutoff hne] at hfailed
  rcases hinstants : Column.instants (Column.ofCells (records.map (·.timestamp))).1
    (Column.ofCells (records.map (·.timestamp))).2 with ⟨kind, instants⟩
  simp only [hinstants] at hfailed
  rcases bind_eq_error hfailed with hnumbers | ⟨numbers, -, hafter⟩
  · obtain ⟨rfl, value, hvalue, hlarge⟩ := Column.numbers_eq_error hnumbers
    exact .number value hvalue hlarge
  rcases bind_eq_error hafter with hlimit | ⟨readings, -, hnewer⟩
  · obtain ⟨hsome, hkind, rfl⟩ := within_eq_error hlast hlimit
    exact .clock hne (hflags hinstants hkind) (.inr hsome)
  rcases bind_eq_error hnewer with hlimit | ⟨readings, -, hdone⟩
  · obtain ⟨hsome, hkind, rfl⟩ :=
      within_eq_error (fun moment hmoment => (hoffset moment hmoment).trans haware) hlimit
    exact .clock hne (hflags hinstants hkind) (.inl (hsome ∘ hage.mpr))
  · cases hdone

/-- Making measurements of records fails for one of the known reasons. -/
theorem fault_of_ofRecords {tag : Measurement.Tag} (haware : now.isNaive = false)
    (hlast : ∀ moment ∈ last, moment.isNaive = false) (hcutoff : cutoff now limits = .ok oldest)
    (hfailed : Measurement.ofRecords tag now limits last records = .error failure) :
    Fault now limits last records failure := by
  rcases bind_eq_error hfailed with hselect | ⟨readings, hselect, hread⟩
  · exact fault_of_select haware hlast hcutoff hselect
  · obtain ⟨reading, hmem, hreading⟩ := exists_mem_of_mapM_eq_error hread
    rcases bind_eq_error hreading with hmoment | ⟨moment, -, hdone⟩
    · unfold Reading.moment at hmoment
      simp only at hmoment
      split at hmoment
      case isTrue => cases hmoment
      case isFalse hbeyond =>
        cases hmoment
        exact .year readings hselect reading hmem (Bool.eq_false_iff.mpr hbeyond)
    · cases hdone

end Reading

end AirQuality
