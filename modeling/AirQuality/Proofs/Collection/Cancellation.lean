import AirQuality.Proofs.Collection.Calls

/-!
# Collections that are cut short

A source with settled replies contributes, as long as nothing is cancelled, a share for every
parameter of every station in the region.  Whenever the work is cancelled, the shares collected
until then are kept: what a source contributes are its first shares, one for each time it was
asked for measurements but the last.
-/

namespace AirQuality

open Outcome
open Stage (bind_apply)

variable {ω α β : Type}

/-! ### Settled replies -/

/-- What a source replies to each call while nothing is cancelled. -/
structure Replies where
  name : String
  stations : Except Failure (List Station)
  parameters : (stationId : String) → Except Failure (List Parameter)
  measurements : Query → Except Failure (List Measurement)
  uncancelled_stations : Uncancelled stations
  uncancelled_parameters : ∀ stationId, Uncancelled (parameters stationId)
  uncancelled_measurements : ∀ query, Uncancelled (measurements query)

namespace Replies

variable (replies : Replies) (region : Region) (limits : Limits)

/-- The source that gives its replies and never finds the work cancelled. -/
def conduct (ω : Type) : Conduct ω where
  name := replies.name
  stations world := ⟨replies.stations, world, false⟩
  parameters stationId world := ⟨replies.parameters stationId, world, false⟩
  measurements query world := ⟨replies.measurements query, world, false⟩

/-- The measurements of a parameter, which are asked for under its canonical key. -/
def measurementsOf (station : Station) (parameter : Parameter) :
    Except Failure (List Measurement) := do
  let key ← parameter.canonicalKey
  replies.measurements ⟨station.id, parameter.id, limits, some key⟩

/-- The share of a parameter; what fails has an empty one. -/
def ofParameter (station : Station) (parameter : Parameter) : List Contribution :=
  (Collection.ofContribution ⟨station, parameter,
    listed (replies.measurementsOf limits station parameter)⟩).contributions

/-- The shares of the parameters of a station. -/
def ofStation (station : Station) : List (List Contribution) :=
  (listed (replies.parameters station.id)).map (replies.ofParameter limits station)

/-- The shares of the stations in a region. -/
def shares : List (List Contribution) :=
  (listed (replies.stations >>= Collection.here region)).flatMap (replies.ofStation limits)

/-- What a source contributes to a region. -/
def contributions : List Contribution := (replies.shares region limits).flatten

theorem uncancelled_here : Uncancelled (replies.stations >>= Collection.here region) :=
  replies.uncancelled_stations.bind (Collection.uncancelled_here region)

end Replies

/-! ### Interruptions -/

/-- How a call with a settled reply may turn out where the work may be cancelled meanwhile, given
whether it is cancelled afterwards: as settled, with a cancellation, or, once the work is
cancelled, with nothing listed or any failure. -/
inductive Interrupted (reply outcome : Except Failure (List α)) (isCancelled : Bool) : Prop
  | answered (hreply : outcome = reply)
  | stopped (message : String) (hstopped : outcome = .error (.cancelled message))
  | emptied (hcancelled : isCancelled = true) (hempty : outcome = .ok [])
  | failed (hcancelled : isCancelled = true) (failure : Failure)
      (hfailed : outcome = .error failure)

theorem Interrupted.bind {reply outcome : Except Failure (List α)} {isCancelled : Bool}
    {next : List α → Except Failure (List β)} (hinterrupted : Interrupted reply outcome isCancelled)
    (hnil : next [] = .ok []) :
    Interrupted (reply >>= next) (outcome >>= next) isCancelled := by
  cases hinterrupted with
  | answered hreply => exact .answered (by rw [hreply])
  | stopped message hstopped => exact .stopped message (by rw [hstopped, error_bind])
  | emptied hcancelled hempty => exact .emptied hcancelled (by rw [hempty, ok_bind, hnil])
  | failed hcancelled failure hfailed =>
      exact .failed hcancelled failure (by rw [hfailed, error_bind])

def Turn.Interrupts (turn : Turn ω α) (reply : Except Failure (List α)) : Prop :=
  Interrupted reply turn.outcome turn.isCancelled

/-- A source that gives its settled replies, except where the work is cancelled. -/
structure Conduct.Interrupts (conduct : Conduct ω) (replies : Replies) : Prop where
  stations : ∀ world, (conduct.stations world).Interrupts replies.stations
  parameters : ∀ stationId world,
    (conduct.parameters stationId world).Interrupts (replies.parameters stationId)
  measurements : ∀ query world,
    (conduct.measurements query world).Interrupts (replies.measurements query)

theorem Replies.interrupts_conduct (replies : Replies) (ω : Type) :
    (replies.conduct ω).Interrupts replies where
  stations _ := .answered rfl
  parameters _ _ := .answered rfl
  measurements _ _ := .answered rfl

/-! ### Kept shares -/

/-- Whether a call asks for measurements. -/
def Call.isForMeasurements : Call → Bool
  | .measurements _ => true
  | _ => false

namespace Stage

/-- How often measurements have been asked for. -/
def asked (stage : Stage ω) : Nat := stage.calls.countP fun made => made.call.isForMeasurements

theorem Alike.asked_eq {stage other : Stage ω} (halike : stage.Alike other) :
    stage.asked = other.asked := by
  unfold asked
  rw [halike.calls]

theorem asked_after (stage : Stage ω) (source : String) (call : Call) (turn : Turn ω α) :
    (stage.after source call turn).asked =
      stage.asked + if call.isForMeasurements then 1 else 0 := by
  simp only [asked, after, List.countP_append, List.countP_singleton]

end Stage

namespace Collection

/-- A collection keeps the first of some shares, one for each time measurements were asked for
but the last.  It has all of them unless it was cut short or the work is cancelled afterwards. -/
structure IsKept (shares : List (List Contribution)) (stage : Stage ω)
    (result : Collection × Stage ω) : Prop where
  isBeginning : ∃ count ≤ shares.length,
    result.1.contributions = (shares.take count).flatten ∧
      result.2.asked ≤ stage.asked + count + 1
  isWhole : result.1.isCut = false → result.2.isCancelled = false →
    result.1.contributions = shares.flatten ∧ result.2.asked ≤ stage.asked + shares.length

/-- Where nothing is collected, measurements may have been asked for once. -/
theorem isKept_of_nil {shares : List (List Contribution)} {stage after : Stage ω}
    {collection : Collection} (hnone : collection.contributions = [])
    (hasked : after.asked ≤ stage.asked + 1)
    (hstopped : collection.isCut = true ∨ after.isCancelled = true) :
    IsKept shares stage (collection, after) := by
  constructor
  · exact ⟨0, Nat.zero_le _, hnone, hasked⟩
  · intro huncut hcalm
    cases hstopped with
    | inl hcut => exact nomatch hcut.symm.trans huncut
    | inr hcancelled => exact nomatch hcancelled.symm.trans hcalm

theorem isKept_ofContribution {stage after : Stage ω} (contribution : Contribution)
    (hasked : after.asked ≤ stage.asked + 1) :
    IsKept [(ofContribution contribution).contributions] stage
      (ofContribution contribution, after) := by
  have hshare : (ofContribution contribution).contributions =
      [(ofContribution contribution).contributions].flatten := List.flatten_singleton.symm
  constructor
  · exact ⟨1, Nat.le_refl 1, hshare, Nat.le_succ_of_le hasked⟩
  · intro _ _
    exact ⟨hshare, hasked⟩

/-- Neither the entries nor what was asked of stations and parameters matters. -/
theorem IsKept.of_asked_eq {shares : List (List Contribution)} {stage before : Stage ω}
    {result : Collection × Stage ω} (hkept : IsKept shares stage result)
    (hasked : before.asked = stage.asked) : IsKept shares before result := by
  constructor
  · rw [hasked]
    exact hkept.isBeginning
  · rw [hasked]
    exact hkept.isWhole

/-- Work that keeps the first of some shares wherever it starts. -/
def Keeps (shares : List (List Contribution)) (work : StateM (Stage ω) Collection) : Prop :=
  ∀ stage : Stage ω, IsKept shares stage (work stage)

/-- A visit that is cut short at once where the work is cancelled. -/
def Halts (visit : StateM (Stage ω) Collection) : Prop :=
  ∀ stage : Stage ω, stage.isCancelled = true → visit stage = (cut, stage)

theorem unlessCancelled_halts (visit : StateM (Stage ω) Collection) :
    Halts (unlessCancelled visit) := by
  intro stage hcancelled
  rw [unlessCancelled_apply, if_pos hcancelled]

theorem unlessCancelled_keeps {shares : List (List Contribution)}
    {visit : StateM (Stage ω) Collection} (hvisit : Keeps shares visit) :
    Keeps shares (unlessCancelled visit) := by
  intro stage
  rw [unlessCancelled_apply]
  by_cases hcancelled : stage.isCancelled
  · rw [if_pos hcancelled]
    exact isKept_of_nil rfl (Nat.le_succ _) (.inl rfl)
  · rw [if_neg hcancelled]
    exact hvisit stage

/-- Where the work is cancelled no visit contributes or does anything. -/
theorem inTurn_of_isCancelled {visit : α → StateM (Stage ω) Collection}
    (hhalts : ∀ item, Halts (visit item)) (items : List α) {stage : Stage ω}
    (hcancelled : stage.isCancelled = true) :
    (inTurn visit items stage).1.contributions = [] ∧ (inTurn visit items stage).2 = stage := by
  cases items with
  | nil => exact ⟨rfl, rfl⟩
  | cons item rest =>
      rw [inTurn_cons_apply, hhalts item stage hcancelled]
      exact ⟨rfl, rfl⟩

/-- A first visit that was cut short, or after which the work is cancelled, is the last one. -/
theorem IsKept.append_right {shares others : List (List Contribution)} {stage after : Stage ω}
    {first collection : Collection} (hkept : IsKept shares stage (first, after))
    (hsame : collection.contributions = first.contributions)
    (hstopped : collection.isCut = true ∨ after.isCancelled = true) :
    IsKept (shares ++ others) stage (collection, after) := by
  obtain ⟨count, hcount, hcontributions, hasked⟩ := hkept.isBeginning
  constructor
  · refine ⟨count, ?_, ?_, hasked⟩
    · rw [List.length_append]
      exact Nat.le_add_right_of_le hcount
    · rw [List.take_append_of_le_length hcount]
      exact hsame.trans hcontributions
  · intro huncut hcalm
    cases hstopped with
    | inl hcut => exact nomatch hcut.symm.trans huncut
    | inr hcancelled => exact nomatch hcancelled.symm.trans hcalm

/-- After a first visit that was not stopped the others follow. -/
theorem IsKept.followedBy {shares others : List (List Contribution)} {stage middle : Stage ω}
    {first : Collection} {result : Collection × Stage ω}
    (hfirst : first.contributions = shares.flatten)
    (hasked : middle.asked ≤ stage.asked + shares.length)
    (hothers : IsKept others middle result) :
    IsKept (shares ++ others) stage (first.followedBy result.1, result.2) := by
  constructor
  · obtain ⟨count, hcount, hcontributions, hlater⟩ := hothers.isBeginning
    refine ⟨shares.length + count, ?_, ?_, ?_⟩
    · rw [List.length_append]
      exact Nat.add_le_add_left hcount _
    · rw [List.take_length_add_append, List.flatten_append, ← hfirst, ← hcontributions]
      rfl
    · calc
        result.2.asked ≤ middle.asked + count + 1 := hlater
        _ ≤ stage.asked + (shares.length + count) + 1 := by omega
  · intro huncut hcalm
    obtain ⟨hcontributions, hlater⟩ := hothers.isWhole huncut hcalm
    constructor
    · rw [List.flatten_append, ← hfirst, ← hcontributions]
      rfl
    · calc
        result.2.asked ≤ middle.asked + others.length := hlater
        _ ≤ stage.asked + (shares ++ others).length := by
          rw [List.length_append]
          omega

/-- Visits in turn keep the first of the shares of all of them. -/
theorem inTurn_keeps {visit : α → StateM (Stage ω) Collection}
    {shares : α → List (List Contribution)} (hhalts : ∀ item, Halts (visit item))
    (hvisit : ∀ item, Keeps (shares item) (visit item)) (items : List α) :
    Keeps (items.flatMap shares) (inTurn visit items) := by
  induction items with
  | nil =>
      intro stage
      exact ⟨⟨0, Nat.le_refl 0, rfl, Nat.le_succ _⟩, fun _ _ => ⟨rfl, Nat.le_refl _⟩⟩
  | cons item rest ih =>
      intro stage
      have hfirst := hvisit item stage
      have hrest := ih (visit item stage).2
      rw [List.flatMap_cons, inTurn_cons_apply]
      by_cases hcut : (visit item stage).1.isCut
      · rw [if_pos hcut]
        exact hfirst.append_right rfl (.inl hcut)
      · rw [if_neg hcut]
        cases hcancelled : (visit item stage).2.isCancelled with
        | true =>
            -- The visits left are cut short at once, so the first one need not be complete.
            obtain ⟨hnone, hafter⟩ := inTurn_of_isCancelled hhalts rest hcancelled
            rw [hafter]
            apply hfirst.append_right _ (.inr hcancelled)
            change (visit item stage).1.contributions ++ _ = _
            rw [hnone, List.append_nil]
        | false =>
            obtain ⟨hall, hasked⟩ := hfirst.isWhole (Bool.not_eq_true _ ▸ hcut) hcancelled
            exact hrest.followedBy hall hasked

/-- What is gone on with after a call that may have been interrupted. -/
theorem goOn_isKept {failed : Failure → String} {next : List α → StateM (Stage ω) Collection}
    {shares : List α → List (List Contribution)} {reply outcome : Except Failure (List α)}
    {stage after : Stage ω} (hinterrupted : Interrupted reply outcome after.isCancelled)
    (hreply : Uncancelled reply) (hasked : after.asked ≤ stage.asked + 1)
    (hnext : ∀ items, IsKept (shares items) stage (next items after))
    (hnil : next [] = pure nothing) :
    IsKept (shares (listed reply)) stage (goOn failed next outcome after) := by
  cases hinterrupted with
  | answered hanswered =>
      subst hanswered
      cases outcome with
      | ok items => exact hnext items
      | error failure =>
          have hother : ¬failure.isCancelled = true := by
            rw [hreply failure rfl]
            exact Bool.false_ne_true
          have hnone := hnext []
          rw [hnil] at hnone
          simp only [goOn, if_neg hother]
          exact ⟨hnone.isBeginning, hnone.isWhole⟩
  | stopped message hstopped =>
      subst hstopped
      exact isKept_of_nil rfl hasked (.inl rfl)
  | emptied hcancelled hempty =>
      subst hempty
      simp only [goOn, hnil]
      exact isKept_of_nil rfl hasked (.inr hcancelled)
  | failed hcancelled failure hfailure =>
      subst hfailure
      by_cases hstopped : failure.isCancelled
      · simp only [goOn, if_pos hstopped]
        exact isKept_of_nil rfl hasked (.inl rfl)
      · simp only [goOn, if_neg hstopped]
        exact isKept_of_nil rfl hasked (.inr hcancelled)

/-! ### Interrupted sources -/

variable {conduct : Conduct ω} {replies : Replies}

theorem ofParameter_keeps (hinterrupts : conduct.Interrupts replies) (limits : Limits)
    (station : Station) (parameter : Parameter) :
    Keeps [replies.ofParameter limits station parameter]
      (ofParameter conduct.source limits station parameter) := by
  apply unlessCancelled_keeps
  intro stage
  rw [bind_apply, Replies.ofParameter]
  cases hkey : parameter.canonicalKey with
  | error failure =>
      have hreply : replies.measurementsOf limits station parameter = .error failure := by
        rw [Replies.measurementsOf, hkey, error_bind]
      have huncancelled : Uncancelled (.error failure : Except Failure (List Measurement)) :=
        uncancelled_error (uncancelled_canonicalKey parameter failure hkey)
      rw [measurementsOf_of_no_key hkey, hreply]
      exact goOn_isKept (.answered rfl) huncancelled (Nat.le_succ _)
        (fun measurements => isKept_ofContribution _ (Nat.le_succ _)) rfl
  | ok key =>
      let query : Query := ⟨station.id, parameter.id, limits, some key⟩
      let turn := conduct.measurements query stage.world
      have hreply : replies.measurementsOf limits station parameter =
          replies.measurements query := by
        rw [Replies.measurementsOf, hkey, ok_bind]
      have hasked : (stage.after conduct.name (.measurements query) turn).asked ≤
          stage.asked + 1 := by
        rw [Stage.asked_after]
        exact Nat.le_refl _
      rw [measurementsOf_of_key hkey, hreply]
      refine goOn_isKept ?_ (replies.uncancelled_measurements query) hasked
        (fun measurements => isKept_ofContribution _ hasked) rfl
      exact hinterrupts.measurements query stage.world

theorem ofStation_keeps (hinterrupts : conduct.Interrupts replies) (limits : Limits)
    (station : Station) :
    Keeps (replies.ofStation limits station) (ofStation conduct.source limits station) := by
  apply unlessCancelled_keeps
  intro stage
  let turn := conduct.parameters station.id stage.world
  let after := stage.after conduct.name (.parameters station.id) turn
  have hasked : stage.asked = after.asked :=
    (Stage.asked_after stage conduct.name (.parameters station.id) turn).symm
  have hvisits : ∀ parameters : List Parameter,
      IsKept (parameters.flatMap fun parameter => [replies.ofParameter limits station parameter])
        stage (inTurn (ofParameter conduct.source limits station) parameters after) := by
    intro parameters
    apply IsKept.of_asked_eq _ hasked
    exact inTurn_keeps (fun _ => unlessCancelled_halts _)
      (ofParameter_keeps hinterrupts limits station) parameters after
  rw [bind_apply, Replies.ofStation, List.map_eq_flatMap]
  exact goOn_isKept (hinterrupts.parameters station.id stage.world)
    (replies.uncancelled_parameters station.id) (Nat.le_succ_of_le (Nat.le_of_eq hasked.symm))
    hvisits rfl

/-- A source keeps the first of the shares that its settled replies come to. -/
theorem ofSource_keeps (hinterrupts : conduct.Interrupts replies) (region : Region)
    (limits : Limits) :
    Keeps (replies.shares region limits) (ofSource region limits conduct.source) := by
  intro stage
  obtain ⟨noted, entries, hnoted, hrun⟩ := ofSource_run conduct region limits stage
  have hlisted : Interrupted (replies.stations >>= here region)
      ((conduct.stations stage.world).outcome >>= here region) noted.isCancelled := by
    rw [← hnoted.isCancelled]
    exact (hinterrupts.stations stage.world).bind (here_nil region)
  have hasked : stage.asked = noted.asked :=
    (Stage.asked_after _ _ _ _).symm.trans hnoted.asked_eq
  have hvisits : ∀ stations : List Station,
      IsKept (stations.flatMap (replies.ofStation limits)) noted
        (inTurn (ofStation conduct.source limits) stations noted) := by
    intro stations
    exact inTurn_keeps (fun _ => unlessCancelled_halts _)
      (ofStation_keeps hinterrupts limits) stations noted
  have hkept : IsKept (replies.shares region limits) noted
      (visits conduct limits ((conduct.stations stage.world).outcome >>= here region) noted) :=
    goOn_isKept hlisted (replies.uncancelled_here region) (Nat.le_succ _) hvisits rfl
  rw [hrun]
  exact ⟨(hkept.of_asked_eq hasked).isBeginning, (hkept.of_asked_eq hasked).isWhole⟩

/-! ### Sources that are not interrupted -/

/-- Work that is not cut short, and not cancelled afterwards, if it is not cancelled before. -/
def Undisturbed (work : StateM (Stage ω) Collection) : Prop :=
  ∀ stage, stage.isCancelled = false →
    (work stage).1.isCut = false ∧ (work stage).2.isCancelled = false

theorem unlessCancelled_undisturbed {visit : StateM (Stage ω) Collection}
    (hvisit : Undisturbed visit) : Undisturbed (unlessCancelled visit) := by
  intro stage hcalm
  rw [unlessCancelled_apply, if_neg (Bool.eq_false_iff.mp hcalm)]
  exact hvisit stage hcalm

theorem inTurn_undisturbed {visit : α → StateM (Stage ω) Collection}
    (hvisit : ∀ item, Undisturbed (visit item)) (items : List α) :
    Undisturbed (inTurn visit items) := by
  induction items with
  | nil => exact fun stage hcalm => ⟨rfl, hcalm⟩
  | cons item rest ih =>
      intro stage hcalm
      obtain ⟨huncut, hafter⟩ := hvisit item stage hcalm
      rw [inTurn_cons_apply, if_neg (Bool.eq_false_iff.mp huncut)]
      exact ih (visit item stage).2 hafter

theorem goOn_undisturbed {failed : Failure → String} {next : List α → StateM (Stage ω) Collection}
    {outcome : Except Failure (List α)} (houtcome : Uncancelled outcome)
    (hnext : ∀ items, Undisturbed (next items)) : Undisturbed (goOn failed next outcome) := by
  intro stage hcalm
  cases outcome with
  | ok items => exact hnext items stage hcalm
  | error failure =>
      simp only [goOn, if_neg (Bool.eq_false_iff.mp (houtcome failure rfl))]
      exact ⟨rfl, hcalm⟩

theorem ofParameter_undisturbed (replies : Replies) (limits : Limits) (station : Station)
    (parameter : Parameter) :
    Undisturbed (ofParameter (replies.conduct ω).source limits station parameter) := by
  apply unlessCancelled_undisturbed
  intro stage hcalm
  have hnext : ∀ measurements : List Measurement, Undisturbed
      (pure (ofContribution ⟨station, parameter, measurements⟩) : StateM (Stage ω) Collection) :=
    fun measurements stage hcalm => ⟨rfl, hcalm⟩
  rw [bind_apply]
  cases hkey : parameter.canonicalKey with
  | error failure =>
      rw [measurementsOf_of_no_key hkey]
      have huncancelled : Uncancelled (.error failure : Except Failure (List Measurement)) :=
        uncancelled_error (uncancelled_canonicalKey parameter failure hkey)
      exact goOn_undisturbed huncancelled hnext stage hcalm
  | ok key =>
      rw [measurementsOf_of_key hkey]
      exact goOn_undisturbed (replies.uncancelled_measurements _) hnext _ rfl

theorem ofStation_undisturbed (replies : Replies) (limits : Limits) (station : Station) :
    Undisturbed (ofStation (replies.conduct ω).source limits station) := by
  apply unlessCancelled_undisturbed
  intro stage hcalm
  rw [bind_apply]
  exact goOn_undisturbed (replies.uncancelled_parameters station.id)
    (inTurn_undisturbed (ofParameter_undisturbed replies limits station)) _ rfl

/-- A source that is not interrupted contributes all that its replies make it contribute. -/
theorem ofSource_conduct (replies : Replies) (region : Region) (limits : Limits)
    (stage : Stage ω) :
    (ofSource region limits (replies.conduct ω).source stage).1.contributions =
      replies.contributions region limits := by
  have hkept := ofSource_keeps (replies.interrupts_conduct ω) region limits stage
  obtain ⟨noted, entries, hnoted, hrun⟩ :=
    ofSource_run (replies.conduct ω) region limits stage
  have hcalm : noted.isCancelled = false := hnoted.isCancelled.symm
  have hvisits : Undisturbed
      (visits (replies.conduct ω) limits (replies.stations >>= here region)) :=
    goOn_undisturbed (replies.uncancelled_here region)
      (inTurn_undisturbed (ofStation_undisturbed replies limits))
  obtain ⟨huncut, hafter⟩ := hvisits noted hcalm
  rw [hrun] at hkept ⊢
  exact (hkept.isWhole huncut hafter).1

end Collection

end AirQuality
