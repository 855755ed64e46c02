import AirQuality.Proofs.Collection

/-!
# Calls that come too late

Once the work is cancelled, no source is asked for parameters or measurements any more.
-/

namespace AirQuality

open Stage (bind_apply)

variable {ω α : Type}

namespace Stage

/-- Of the calls made from one stage to another only those that ask for stations were started
after the work was cancelled. -/
def Orderly (stage after : Stage ω) : Prop :=
  ∃ made, after.calls = stage.calls ++ made ∧
    ∀ call ∈ made, call.isLate = true → call.call = .stations

theorem Orderly.refl (stage : Stage ω) : stage.Orderly stage :=
  ⟨[], (List.append_nil _).symm, fun _ hmem => nomatch hmem⟩

theorem Orderly.trans {stage middle after : Stage ω} (hfirst : stage.Orderly middle)
    (hsecond : middle.Orderly after) : stage.Orderly after := by
  obtain ⟨made, hmade, hfirst⟩ := hfirst
  obtain ⟨others, hothers, hsecond⟩ := hsecond
  refine ⟨made ++ others, ?_, fun call hcall => ?_⟩
  · rw [hothers, hmade, List.append_assoc]
  · exact (List.mem_append.mp hcall).elim (hfirst call) (hsecond call)

/-- The entries do not matter. -/
theorem Orderly.of_calls_eq {stage after other : Stage ω} (horderly : stage.Orderly after)
    (hcalls : other.calls = after.calls) : stage.Orderly other := by
  obtain ⟨made, hmade, hlate⟩ := horderly
  exact ⟨made, hcalls.trans hmade, hlate⟩

theorem orderly_after (stage : Stage ω) (source : String) {call : Call} (turn : Turn ω α)
    (hcall : stage.isCancelled = true → call = .stations) :
    stage.Orderly (stage.after source call turn) := by
  refine ⟨[⟨source, call, stage.isCancelled⟩], rfl, fun made hmade => ?_⟩
  obtain rfl := List.mem_singleton.mp hmade
  exact hcall

end Stage

namespace Collection

/-- Work whose late calls ask for stations only. -/
def IsOrderly (work : StateM (Stage ω) Collection) : Prop :=
  ∀ stage : Stage ω, stage.Orderly (work stage).2

theorem unlessCancelled_isOrderly {visit : StateM (Stage ω) Collection}
    (hvisit : ∀ stage : Stage ω, stage.isCancelled = false → stage.Orderly (visit stage).2) :
    IsOrderly (unlessCancelled visit) := by
  intro stage
  rw [unlessCancelled_apply]
  cases hcancelled : stage.isCancelled with
  | true => exact Stage.Orderly.refl stage
  | false => exact hvisit stage hcancelled

theorem inTurn_isOrderly {visit : α → StateM (Stage ω) Collection}
    (hvisit : ∀ item, IsOrderly (visit item)) (items : List α) :
    IsOrderly (inTurn visit items) := by
  induction items with
  | nil => exact Stage.Orderly.refl
  | cons item rest ih =>
      intro stage
      rw [inTurn_cons_apply]
      by_cases hcut : (visit item stage).1.isCut
      · rw [if_pos hcut]
        exact hvisit item stage
      · rw [if_neg hcut]
        exact (hvisit item stage).trans (ih _)

theorem goOn_isOrderly {failed : Failure → String} {next : List α → StateM (Stage ω) Collection}
    (hnext : ∀ items, IsOrderly (next items)) (outcome : Except Failure (List α)) :
    IsOrderly (goOn failed next outcome) := by
  intro stage
  cases outcome with
  | ok items => exact hnext items stage
  | error failure =>
      by_cases hcancelled : failure.isCancelled
      · simp only [goOn, if_pos hcancelled]
        exact Stage.Orderly.refl stage
      · simp only [goOn, if_neg hcancelled]
        exact (Stage.Orderly.refl stage).of_calls_eq rfl

variable (conduct : Conduct ω) (limits : Limits)

theorem ofParameter_isOrderly (station : Station) (parameter : Parameter) :
    IsOrderly (ofParameter conduct.source limits station parameter) := by
  apply unlessCancelled_isOrderly
  intro stage hcalm
  have hnext : ∀ measurements : List Measurement, IsOrderly
      (pure (ofContribution ⟨station, parameter, measurements⟩) : StateM (Stage ω) Collection) :=
    fun _ => Stage.Orderly.refl
  rw [bind_apply]
  cases hkey : parameter.canonicalKey with
  | error failure =>
      rw [measurementsOf_of_no_key hkey]
      exact goOn_isOrderly hnext _ stage
  | ok key =>
      rw [measurementsOf_of_key hkey]
      refine Stage.Orderly.trans (stage.orderly_after conduct.name _ ?_)
        (goOn_isOrderly hnext _ _)
      exact fun hcancelled => nomatch hcancelled.symm.trans hcalm

theorem ofStation_isOrderly (station : Station) :
    IsOrderly (ofStation conduct.source limits station) := by
  apply unlessCancelled_isOrderly
  intro stage hcalm
  rw [bind_apply]
  refine Stage.Orderly.trans (stage.orderly_after conduct.name _ ?_) (goOn_isOrderly ?_ _ _)
  · exact fun hcancelled => nomatch hcancelled.symm.trans hcalm
  · exact inTurn_isOrderly (ofParameter_isOrderly conduct limits station)

/-- Of the late calls to a source only the first asks for anything, which is its stations. -/
theorem ofSource_isOrderly (region : Region) :
    IsOrderly (ofSource region limits conduct.source) := by
  intro stage
  obtain ⟨noted, entries, hnoted, hrun⟩ := ofSource_run conduct region limits stage
  have hfirst : stage.Orderly noted :=
    (stage.orderly_after conduct.name (conduct.stations stage.world) fun _ => rfl).of_calls_eq
      hnoted.calls.symm
  rw [hrun]
  refine (hfirst.trans ?_).of_calls_eq rfl
  exact goOn_isOrderly (inTurn_isOrderly (ofStation_isOrderly conduct limits)) _ noted

end Collection

end AirQuality
