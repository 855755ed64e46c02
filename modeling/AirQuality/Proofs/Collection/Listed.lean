import AirQuality.Proofs.Aggregation
import AirQuality.Proofs.Answers

/-!
# What is collected is what is listed

Whatever sources do when they are called, the measurements collected are those that they list in
answer to the calls made to them, in the order of the calls.  None is lost on the way, and what
fails adds none.
-/

namespace AirQuality

open Stage (bind_apply)

variable {ω α : Type}

/-- The measurements that an answer lists. -/
def Answer.listed : Answer → List Measurement
  | .measurements _ (.ok items) => items
  | _ => []

namespace Conduct

/-- What a source answers to the calls that are made between two stages. -/
def answersBetween (conduct : Conduct ω) (stage after : Stage ω) : List Answer :=
  conduct.answers ((after.calls.drop stage.calls.length).map (·.call)) stage.world

theorem Told.answersBetween_eq {conduct : Conduct ω} {stage after : Stage ω} {told : List Answer}
    (htold : conduct.Told stage after told) : conduct.answersBetween stage after = told := by
  have hcalls : (after.calls.drop stage.calls.length).map (·.call) = told.map Answer.call := by
    rw [List.map_drop, htold.calls]
    exact List.drop_left' (List.length_map _)
  rw [answersBetween, hcalls]
  exact htold.answers.symm

/-- What the answers of a source list, the source lists when it is asked. -/
theorem exists_listing_of_mem {conduct : Conduct ω} {calls : List Call} {world : ω}
    {measurement : Measurement}
    (hmem : measurement ∈ (conduct.answers calls world).flatMap Answer.listed) :
    ∃ query world items, (conduct.measurements query world).outcome = .ok items ∧
      measurement ∈ items := by
  induction calls generalizing world with
  | nil => cases hmem
  | cons call rest ih =>
      rw [answers, List.flatMap_cons, List.mem_append] at hmem
      cases hmem with
      | inr hrest => exact ih hrest
      | inl hfirst =>
          cases call with
          | stations => cases hfirst
          | parameters stationId => cases hfirst
          | measurements query =>
              cases houtcome : (conduct.measurements query world).outcome with
              | error failure =>
                  rw [answer, houtcome] at hfirst
                  cases hfirst
              | ok items =>
                  rw [answer, houtcome] at hfirst
                  exact ⟨query, world, items, houtcome, hfirst⟩

end Conduct

namespace Collection

/-- Work that collects what the answers told list, after some measurements that were listed before
it. -/
def Collects (conduct : Conduct ω) (earlier : List Measurement)
    (work : StateM (Stage ω) Collection) : Prop :=
  ∀ stage, ∃ told, conduct.Told stage (work stage).2 told ∧
    Contribution.measurementsOf (work stage).1.contributions =
      earlier ++ told.flatMap Answer.listed

variable {conduct : Conduct ω}

theorem collects_pure {earlier : List Measurement} {collection : Collection}
    (hearlier : Contribution.measurementsOf collection.contributions = earlier) :
    Collects conduct earlier (pure collection) :=
  fun stage => ⟨[], Conduct.Told.refl stage, hearlier.trans (List.append_nil _).symm⟩

theorem collects_unlessCancelled {visit : StateM (Stage ω) Collection}
    (hvisit : Collects conduct [] visit) : Collects conduct [] (unlessCancelled visit) := by
  intro stage
  rw [unlessCancelled_apply]
  cases stage.isCancelled with
  | true => exact collects_pure rfl stage
  | false => exact hvisit stage

theorem collects_inTurn {visit : α → StateM (Stage ω) Collection}
    (hvisit : ∀ item, Collects conduct [] (visit item)) (items : List α) :
    Collects conduct [] (inTurn visit items) := by
  induction items with
  | nil => exact collects_pure rfl
  | cons item rest ih =>
      intro stage
      obtain ⟨told, htold, hfirst⟩ := hvisit item stage
      rw [inTurn_cons_apply]
      by_cases hcut : (visit item stage).1.isCut
      · rw [if_pos hcut]
        exact ⟨told, htold, hfirst⟩
      · obtain ⟨others, hothers, hrest⟩ := ih (visit item stage).2
        rw [if_neg hcut]
        refine ⟨told ++ others, htold.trans hothers, ?_⟩
        rw [List.flatMap_append, ← List.append_assoc, ← hfirst]
        exact List.flatMap_append.trans (congrArg _ hrest)

theorem collects_goOn_error (failed : Failure → String)
    (next : List α → StateM (Stage ω) Collection) (failure : Failure) :
    Collects conduct [] (goOn failed next (.error failure)) := by
  intro stage
  by_cases hcancelled : failure.isCancelled
  · simp only [goOn, if_pos hcancelled]
    exact collects_pure rfl stage
  · simp only [goOn, if_neg hcancelled]
    exact ⟨[], (Conduct.Told.refl stage).of_alike ⟨rfl, rfl, rfl⟩, rfl⟩

/-- What a call lists comes before what is collected after it. -/
theorem collects_call {kind : Call} {turn : ω → Turn ω α}
    {answer : Except Failure (List α) → Answer} {failed : Failure → String}
    {next : List α → StateM (Stage ω) Collection}
    (hworld : ∀ world, (turn world).world = conduct.next world kind)
    (hanswer : ∀ world, conduct.answer world kind = answer (turn world).outcome)
    (hfailed : ∀ failure, (answer (.error failure)).listed = [])
    (hnext : ∀ items, Collects conduct (answer (.ok items)).listed (next items)) :
    Collects conduct [] ((Stage.call conduct.name kind turn).run >>= goOn failed next) := by
  intro stage
  have hcall := conduct.told_answer stage kind (hworld stage.world)
  rw [hanswer] at hcall
  let after := stage.after conduct.name kind (turn stage.world)
  have hrest : ∃ told,
      conduct.Told after (goOn failed next (turn stage.world).outcome after).2 told ∧
      Contribution.measurementsOf
          (goOn failed next (turn stage.world).outcome after).1.contributions =
        (answer (turn stage.world).outcome).listed ++ told.flatMap Answer.listed := by
    cases (turn stage.world).outcome with
    | error failure =>
        rw [hfailed]
        exact collects_goOn_error failed next failure after
    | ok items => exact hnext items after
  obtain ⟨told, htold, hlisted⟩ := hrest
  exact ⟨answer (turn stage.world).outcome :: told, hcall.trans htold, hlisted⟩

section

variable (conduct : Conduct ω) (limits : Limits)

theorem measurementsOf_ofContribution (contribution : Contribution) :
    Contribution.measurementsOf (ofContribution contribution).contributions =
      contribution.measurements := by
  unfold ofContribution
  by_cases hnone : contribution.measurements.isEmpty
  · rw [if_pos hnone, List.isEmpty_iff.mp hnone]
    rfl
  · rw [if_neg hnone]
    exact List.flatMap_singleton _ _

theorem ofParameter_collects (station : Station) (parameter : Parameter) :
    Collects conduct [] (ofParameter conduct.source limits station parameter) := by
  apply collects_unlessCancelled
  cases hkey : parameter.canonicalKey with
  | error failure =>
      rw [measurementsOf_of_no_key hkey, pure_bind]
      exact collects_goOn_error _ _ failure
  | ok key =>
      let query : Query := ⟨station.id, parameter.id, limits, some key⟩
      have hanswer : ∀ world, conduct.answer world (.measurements query) =
          .measurements query (conduct.measurements query world).outcome := fun _ => rfl
      rw [measurementsOf_of_key hkey]
      apply collects_call (fun _ => rfl) hanswer (fun _ => rfl)
      exact fun items => collects_pure (measurementsOf_ofContribution _)

theorem ofStation_collects (station : Station) :
    Collects conduct [] (ofStation conduct.source limits station) := by
  have hanswer : ∀ world, conduct.answer world (.parameters station.id) =
      .parameters station.id (conduct.parameters station.id world).outcome := fun _ => rfl
  apply collects_unlessCancelled
  apply collects_call (fun _ => rfl) hanswer (fun _ => rfl)
  exact fun items => collects_inTurn (ofParameter_collects conduct limits station) items

/-- Everything that is collected from a source is what its answers list. -/
theorem ofSource_collects (region : Region) :
    Collects conduct [] (ofSource region limits conduct.source) := by
  intro stage
  obtain ⟨noted, entries, hnoted, hrun⟩ := ofSource_run conduct region limits stage
  have hcall := (conduct.told_answer stage .stations rfl).of_alike hnoted
  have hvisits : Collects conduct []
      (visits conduct limits ((conduct.stations stage.world).outcome >>= here region)) := by
    unfold visits
    cases (conduct.stations stage.world).outcome >>= here region with
    | error failure => exact collects_goOn_error _ _ failure
    | ok stations => exact collects_inTurn (ofStation_collects conduct limits) stations
  obtain ⟨told, htold, hlisted⟩ := hvisits noted
  rw [hrun]
  exact ⟨_, (hcall.trans htold).of_alike ⟨rfl, rfl, rfl⟩, hlisted⟩

end

end Collection

/-! ### Several sources -/

namespace Aggregation

/-- What sources answer that are asked one after the other, each to the calls that are made to
it. -/
def answers (region : Region) (limits : Limits) : List (Conduct ω) → Stage ω → List Answer
  | [], _ => []
  | conduct :: rest, stage =>
    let after := (Collection.ofSource region limits conduct.source stage).2
    conduct.answersBetween stage after ++ answers region limits rest after

theorem exists_listing_of_mem_answers {region : Region} {limits : Limits}
    {conducts : List (Conduct ω)} {stage : Stage ω} {measurement : Measurement}
    (hmem : measurement ∈ (answers region limits conducts stage).flatMap Answer.listed) :
    ∃ conduct ∈ conducts, ∃ query world items,
      (conduct.measurements query world).outcome = .ok items ∧ measurement ∈ items := by
  induction conducts generalizing stage with
  | nil => cases hmem
  | cons conduct rest ih =>
      rw [answers, List.flatMap_append, List.mem_append] at hmem
      cases hmem with
      | inl hfirst =>
          exact ⟨conduct, List.mem_cons_self, Conduct.exists_listing_of_mem hfirst⟩
      | inr hrest =>
          obtain ⟨other, hother, hlisting⟩ := ih hrest
          exact ⟨other, List.mem_cons_of_mem conduct hother, hlisting⟩

/-- The measurements that sources contribute are those that they list. -/
theorem measurementsOf_parts (region : Region) (limits : Limits) (conducts : List (Conduct ω))
    (stage : Stage ω) :
    Contribution.measurementsOf
        (parts region limits (conducts.map Conduct.source) stage).1.flatten =
      (answers region limits conducts stage).flatMap Answer.listed := by
  induction conducts generalizing stage with
  | nil => rfl
  | cons conduct rest ih =>
      obtain ⟨told, htold, hlisted⟩ :=
        Collection.ofSource_collects conduct limits region stage
      rw [List.map_cons, parts_cons_apply, answers, List.flatMap_append, ← ih,
        htold.answersBetween_eq, ← List.nil_append (told.flatMap Answer.listed), ← hlisted]
      exact List.flatMap_append

end Aggregation

end AirQuality
