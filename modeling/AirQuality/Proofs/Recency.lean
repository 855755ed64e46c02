import AirQuality.Proofs.Plan.Trace
import AirQuality.Proofs.Reading.Insertion
import AirQuality.Proofs.Reading.Regular
import AirQuality.Source.Gios
import AirQuality.Source.OpenAq
import AirQuality.Source.OpenMeteo

/-!
# The age of measurements

An age limit keeps the readings that are newer than its cutoff.  Measurements have the moments of
their readings, cut to microseconds, so none of them is before the cutoff, and none of those that a
provider lists is, whatever it was asked for and whatever it replied.
-/

namespace AirQuality

open Outcome
open Time (Moment)

/-! ### Readings -/

namespace Reading

variable {now : Moment} {limits : Limits} {last : Option Moment} {records : List Record}
  {readings : List Reading} {reading : Reading}

/-- What is selected is newer than the cutoff. -/
theorem isNewer_of_select (hselect : select now limits last records = .ok readings)
    (hmem : reading ∈ readings) :
    ∃ oldest, cutoff now limits = .ok oldest ∧ isNewer oldest reading = true := by
  have hne : records ≠ [] := by
    rintro rfl
    cases hselect
    cases hmem
  obtain ⟨oldest, hcutoff⟩ := exists_cutoff_of_select hne hselect
  obtain ⟨-, hsteps⟩ := (select_eq_ok_iff_of_ne_nil hcutoff hne readings).mp hselect
  obtain ⟨kept, -, hafter⟩ := bind_eq_ok hsteps
  obtain ⟨newer, hnewer, hcapped⟩ := bind_eq_ok hafter
  obtain ⟨-, rfl⟩ := (newerThan_eq_ok_iff _ kept newer).mp hnewer
  rw [← Except.ok.inj hcapped] at hmem
  have hsorted := List.mem_mergeSort.mp ((capped_sublist _ _).subset hmem)
  exact ⟨oldest, hcutoff, (List.mem_filter.mp hsorted).2⟩

end Reading

/-! ### Measurements -/

/-- Limits reach back to a moment that is not before the cutoff of their age limit, if they have
one. -/
def Limits.Reach (limits : Limits) (now moment : Moment) : Prop :=
  ∀ days, limits.maxAgeDays = some days →
    ∃ cutoff, now.daysBefore days = .ok cutoff ∧ cutoff.instant ≤ moment.instant

namespace Measurement

variable {tag : Tag} {now : Moment} {limits : Limits} {last : Option Moment}
  {records : List Record} {measurements : List Measurement}

/-- Measurements at moments that limits reach. -/
def AreRecent (now : Moment) (limits : Limits) (measurements : List Measurement) : Prop :=
  ∀ measurement ∈ measurements, limits.Reach now measurement.timestamp

theorem areRecent_nil : AreRecent now limits [] := List.forall_mem_nil _

theorem reach_ofDated {oldest : Option Moment} {reading : Reading}
    (hcutoff : Reading.cutoff now limits = .ok oldest)
    (hnewer : Reading.isNewer oldest reading = true) :
    limits.Reach now (ofDated tag reading).timestamp := by
  intro days hdays
  obtain ⟨cutoff, rfl, hbefore⟩ := Reading.exists_daysBefore_of_cutoff hdays hcutoff
  have hless : cutoff.instant * 1000 < reading.instant := of_decide_eq_true hnewer
  -- The instant of a reading is cut down to microseconds, and that of a cutoff is a whole number
  -- of them.
  have hcut : (ofDated tag reading).timestamp.instant = reading.instant / 1000 := Int.sub_zero _
  exact ⟨cutoff, hbefore, by omega⟩

theorem areRecent_of_ofRecords (hmade : ofRecords tag now limits last records = .ok measurements) :
    AreRecent now limits measurements := by
  intro measurement hmem
  obtain ⟨readings, hselect, hread⟩ := bind_eq_ok hmade
  obtain ⟨reading, hreading, hmeasurement⟩ := exists_mem_of_mapM hread hmem
  obtain ⟨oldest, hcutoff, hnewer⟩ := Reading.isNewer_of_select hselect hreading
  obtain ⟨-, rfl⟩ := (ofReading_eq_ok_iff reading measurement).mp hmeasurement
  exact reach_ofDated hcutoff hnewer

end Measurement

/-! ### Work -/

namespace Work

variable {α β : Type}

/-- Work that comes to such values only, whatever replies it obtains. -/
def Yields (holds : α → Prop) (work : Work α) : Prop :=
  ∀ obtains earlier value later, work.ComesTo obtains earlier (.ok value) later → holds value

variable {holds : α → Prop} {after : β → Prop}

theorem yields_pure {value : α} (hvalue : holds value) : Yields holds (pure value) := by
  intro obtains earlier result later hcomes
  obtain ⟨hsame, -⟩ := comesTo_pure.mp hcomes
  exact Except.ok.inj hsame ▸ hvalue

theorem yields_lift {outcome : Except Failure α}
    (houtcome : ∀ value, outcome = .ok value → holds value) : (lift outcome).Yields holds := by
  intro obtains earlier value later hcomes
  exact houtcome value (comesTo_lift.mp hcomes).1.symm

theorem Yields.bind {work : Work α} {next : α → Work β} (hwork : work.Yields holds)
    (hnext : ∀ value, holds value → (next value).Yields after) : (work >>= next).Yields after := by
  intro obtains earlier value later hcomes
  obtain ⟨result, between, hresult, hrest⟩ := comesTo_bind_ok.mp hcomes
  exact hnext result (hwork _ _ _ _ hresult) _ _ _ _ hrest

/-- The last part of work tells what it comes to. -/
theorem yields_bind {work : Work α} {next : α → Work β}
    (hnext : ∀ value, (next value).Yields after) : (work >>= next).Yields after :=
  Yields.bind (fun _ _ _ _ _ => trivial) fun value _ => hnext value

theorem Yields.perform {τ : Type} {work : Work α} (hwork : work.Yields holds)
    (fetch : Request → Fetching τ Json) {session : Session τ} {value : α}
    (hvalue : (work.perform fetch session).1 = .ok value) : holds value :=
  hwork (fun _ _ _ _ => True) _ _ _ (comesTo_perform (fun _ _ => trivial) hvalue)

end Work

/-! ### Sources -/

open Measurement (AreRecent)

variable {now : Moment} {limits : Limits} {query : Query}

/-- Records are read and measurements made of them, with a note if there are none. -/
theorem yields_usable {read : Work (List Record)} {tag : Measurement.Tag} {level : Log.Level}
    {topic : Log.Topic} {text : String} :
    Work.Yields (AreRecent now limits) (do
      let records ← read
      let measurements ← Work.lift (Measurement.ofRecords tag now limits none records)
      if measurements.isEmpty then
        Work.note level topic text
      pure measurements) := by
  refine Work.yields_bind fun records => ?_
  have hmade : Work.Yields (AreRecent now limits)
      (Work.lift (Measurement.ofRecords tag now limits none records)) :=
    Work.yields_lift fun measurements hmade => Measurement.areRecent_of_ofRecords hmade
  refine hmade.bind fun measurements hrecent => ?_
  split
  · exact Work.yields_bind fun _ => Work.yields_pure hrecent
  · exact Work.yields_pure hrecent

theorem yields_liveFirst {live archive : Work (List Measurement)}
    (hlive : live.Yields (AreRecent now limits))
    (harchive : archive.Yields (AreRecent now limits)) :
    Work.Yields (AreRecent now limits) (do
      let found ← live
      if found.isEmpty then archive else pure found) := by
  refine hlive.bind fun found hrecent => ?_
  split
  · exact harchive
  · exact Work.yields_pure hrecent

theorem Gios.yields_measurements :
    (Gios.measurements now query).Yields (AreRecent now query.limits) := by
  unfold Gios.measurements
  split
  · exact yields_liveFirst yields_usable yields_usable
  · exact Work.yields_bind fun key => yields_liveFirst yields_usable yields_usable

theorem OpenAq.yields_measurements (hasKey : Bool) (pages : Nat) :
    (OpenAq.measurements now hasKey pages query).Yields (AreRecent now query.limits) := by
  unfold OpenAq.measurements OpenAq.withKey
  split
  · have hkeyed : ∀ key, Work.Yields (AreRecent now query.limits) (do
        let parameters ← Work.lift (ageParameters now query.limits)
        let live ← usable now pages query key parameters "measurements"
        if live.isEmpty then usable now pages query key parameters "hours" else pure live) :=
      fun key => Work.yields_bind fun parameters => yields_liveFirst yields_usable yields_usable
    split
    · exact hkeyed _
    · exact Work.yields_bind hkeyed
  · exact Work.yields_bind fun _ => Work.yields_pure Measurement.areRecent_nil

/-- A block is read and measurements are made of it. -/
theorem OpenMeteo.yields_ofBlock {tag : Measurement.Tag} {last : Option Moment}
    {records : Except Failure (List Record)} :
    Work.Yields (AreRecent now limits)
      (Work.lift (records >>= Measurement.ofRecords tag now limits last)) := by
  apply Work.yields_lift
  intro measurements hmade
  obtain ⟨raw, -, hmade⟩ := bind_eq_ok hmade
  exact Measurement.areRecent_of_ofRecords hmade

theorem OpenMeteo.yields_measurements (points : List Station) :
    (OpenMeteo.measurements now points query).Yields (AreRecent now query.limits) := by
  unfold OpenMeteo.measurements
  split
  · refine Work.yields_bind fun current => ?_
    refine yields_liveFirst yields_ofBlock ?_
    exact Work.yields_bind fun days => Work.yields_bind fun hourly => yields_ofBlock
  · exact Work.yields_pure Measurement.areRecent_nil

end AirQuality
