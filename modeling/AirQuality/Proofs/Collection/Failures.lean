import AirQuality.Proofs.Collection
import AirQuality.Proofs.Summary

/-!
# Failures as no data

A call that fails counts as one that lists nothing.  A collection with failing calls is compared,
step by step, with the one in which these calls come to empty lists: both make the same calls
and come to the same contributions, and differ only in the entries they write.
-/

namespace AirQuality

open Outcome
open Stage (AlikeBy)

variable {ω α : Type}

namespace Outcome

/-- An outcome with a failure taken for no data; a cancellation stays one. -/
def quiet : Except Failure (List α) → Except Failure (List α)
  | .ok items => .ok items
  | .error failure => if failure.isCancelled then .error failure else .ok []

theorem quiet_error {failure : Failure} (hother : ¬failure.isCancelled = true) :
    quiet (.error failure : Except Failure (List α)) = .ok [] := if_neg hother

theorem quiet_cancelled {failure : Failure} (hcancelled : failure.isCancelled = true) :
    quiet (.error failure : Except Failure (List α)) = .error failure := if_pos hcancelled

/-- An outcome as it is, or with its failure taken for no data. -/
def SameOrQuiet (outcome other : Except Failure (List α)) : Prop :=
  other = outcome ∨ other = quiet outcome

theorem SameOrQuiet.bind {β : Type} {outcome other : Except Failure (List α)}
    {next : List α → Except Failure (List β)} (hother : SameOrQuiet outcome other)
    (hnil : next [] = .ok []) : SameOrQuiet (outcome >>= next) (other >>= next) := by
  cases hother with
  | inl hsame => exact .inl (by rw [hsame])
  | inr hquiet =>
      subst hquiet
      cases outcome with
      | ok items => exact .inl rfl
      | error failure =>
          right
          by_cases hcancelled : failure.isCancelled
          · rw [quiet_cancelled hcancelled, error_bind, quiet_cancelled hcancelled]
          · rw [quiet_error hcancelled, ok_bind, hnil, error_bind, quiet_error hcancelled]

end Outcome

/-! ### Sources without failures -/

namespace Turn

def quiet (turn : Turn ω α) : Turn ω α := { turn with outcome := Outcome.quiet turn.outcome }

/-- Turns that differ at most in a failure that is taken for no data. -/
structure Matches (turn other : Turn ω α) : Prop where
  outcome : SameOrQuiet turn.outcome other.outcome
  world : turn.world = other.world
  isCancelled : turn.isCancelled = other.isCancelled

theorem Matches.refl (turn : Turn ω α) : turn.Matches turn := ⟨.inl rfl, rfl, rfl⟩

theorem matches_quiet (turn : Turn ω α) : turn.Matches turn.quiet := ⟨.inr rfl, rfl, rfl⟩

theorem Matches.alikeBy {name name' : String} (hname : name = name') (call : Call)
    {turn turn' : ω → Turn ω α} (hturn : ∀ world, (turn world).Matches (turn' world)) :
    AlikeBy SameOrQuiet (Stage.call name call turn).run (Stage.call name' call turn').run := by
  intro stage twin halike
  subst hname
  have hmatches := hturn stage.world
  change SameOrQuiet (turn stage.world).outcome (turn' twin.world).outcome ∧
    (stage.after name call (turn stage.world)).Alike (twin.after name call (turn' twin.world))
  rw [← halike.world]
  refine ⟨hmatches.outcome, hmatches.world, hmatches.isCancelled, ?_⟩
  simp only [Stage.after, halike.calls, halike.isCancelled]

end Turn

namespace Conduct

/-- A source whose failing calls list nothing instead. -/
def withoutFailures (conduct : Conduct ω) : Conduct ω where
  name := conduct.name
  stations world := (conduct.stations world).quiet
  parameters stationId world := (conduct.parameters stationId world).quiet
  measurements query world := (conduct.measurements query world).quiet

/-- Sources of one name whose calls differ at most in failures that are taken for no data. -/
structure Matches (conduct other : Conduct ω) : Prop where
  name : conduct.name = other.name
  stations : ∀ world, (conduct.stations world).Matches (other.stations world)
  parameters : ∀ stationId world,
    (conduct.parameters stationId world).Matches (other.parameters stationId world)
  measurements : ∀ query world,
    (conduct.measurements query world).Matches (other.measurements query world)

theorem Matches.refl (conduct : Conduct ω) : conduct.Matches conduct where
  name := rfl
  stations _ := Turn.Matches.refl _
  parameters _ _ := Turn.Matches.refl _
  measurements _ _ := Turn.Matches.refl _

theorem matches_withoutFailures (conduct : Conduct ω) :
    conduct.Matches conduct.withoutFailures where
  name := rfl
  stations _ := Turn.matches_quiet _
  parameters _ _ := Turn.matches_quiet _
  measurements _ _ := Turn.matches_quiet _

end Conduct

/-! ### Collections -/

namespace Collection

/-- Collections that are the same, of parameters that have canonical keys. -/
structure Agree (collection other : Collection) : Prop where
  same : collection = other
  isKeyed : ∀ contribution ∈ collection.contributions, contribution.IsKeyed

theorem agree_nothing : Agree nothing nothing := ⟨rfl, fun _ hmem => nomatch hmem⟩

theorem agree_cut : Agree cut cut := ⟨rfl, fun _ hmem => nomatch hmem⟩

theorem agree_ofContribution {contribution : Contribution} (hkeyed : contribution.IsKeyed) :
    Agree (ofContribution contribution) (ofContribution contribution) := by
  refine ⟨rfl, fun other hother => ?_⟩
  by_cases hempty : contribution.measurements.isEmpty
  · simp only [ofContribution, if_pos hempty] at hother
    cases hother
  · simp only [ofContribution, if_neg hempty, List.mem_singleton] at hother
    exact hother ▸ hkeyed

theorem Agree.followedBy {first other second another : Collection} (hfirst : Agree first other)
    (hsecond : Agree second another) :
    Agree (first.followedBy second) (other.followedBy another) := by
  refine ⟨by rw [hfirst.same, hsecond.same], fun contribution hmem => ?_⟩
  cases List.mem_append.mp hmem with
  | inl hmem => exact hfirst.isKeyed contribution hmem
  | inr hmem => exact hsecond.isKeyed contribution hmem

/-! ### Steps -/

/-- What is gone on with, where nothing that is listed comes to nothing. -/
theorem goOn_alikeBy {failed failed' : Failure → String}
    {next next' : List α → StateM (Stage ω) Collection}
    {outcome other : Except Failure (List α)} (hother : SameOrQuiet outcome other)
    (hnext : ∀ items, outcome = .ok items → AlikeBy Agree (next items) (next' items))
    (hnil : next' [] = pure nothing) :
    AlikeBy Agree (goOn failed next outcome) (goOn failed' next' other) := by
  cases outcome with
  | ok items =>
      have hsame : other = .ok items := hother.elim id id
      subst hsame
      exact hnext items rfl
  | error failure =>
      by_cases hcancelled : failure.isCancelled
      · have hsame : other = .error failure := by
          cases hother with
          | inl hsame => exact hsame
          | inr hquiet => rw [hquiet, quiet_cancelled hcancelled]
        subst hsame
        simp only [goOn, if_pos hcancelled]
        exact AlikeBy.pure agree_cut
      · simp only [goOn, if_neg hcancelled]
        apply AlikeBy.note_left
        cases hother with
        | inl hsame =>
            subst hsame
            simp only [if_neg hcancelled]
            exact AlikeBy.note_right (AlikeBy.pure agree_nothing)
        | inr hquiet =>
            rw [quiet_error hcancelled] at hquiet
            subst hquiet
            simp only [hnil]
            exact AlikeBy.pure agree_nothing

theorem unlessCancelled_alikeBy {visit visit' : StateM (Stage ω) Collection}
    (hvisit : AlikeBy Agree visit visit') :
    AlikeBy Agree (unlessCancelled visit) (unlessCancelled visit') := by
  have hlook : AlikeBy Eq (Watched.isCancelled : StateM (Stage ω) Bool) Watched.isCancelled :=
    fun _ _ halike => ⟨halike.isCancelled, halike⟩
  apply AlikeBy.bind hlook
  intro isCancelled _ hsame
  subst hsame
  cases isCancelled with
  | true => exact AlikeBy.pure agree_cut
  | false => exact hvisit

theorem inTurn_alikeBy {visit visit' : α → StateM (Stage ω) Collection}
    (hvisit : ∀ item, AlikeBy Agree (visit item) (visit' item)) (items : List α) :
    AlikeBy Agree (inTurn visit items) (inTurn visit' items) := by
  induction items with
  | nil => exact AlikeBy.pure agree_nothing
  | cons item rest ih =>
      apply AlikeBy.bind (hvisit item)
      intro first other hfirst
      have hsame := hfirst.same
      subst hsame
      by_cases hcut : first.isCut
      · simp only [if_pos hcut]
        exact AlikeBy.pure hfirst
      · simp only [if_neg hcut]
        exact AlikeBy.bind ih fun _ _ hothers => AlikeBy.pure (hfirst.followedBy hothers)

variable {conduct other : Conduct ω}

theorem ofParameter_alikeBy (hmatches : conduct.Matches other) (limits : Limits)
    (station : Station) (parameter : Parameter) :
    AlikeBy Agree (ofParameter conduct.source limits station parameter)
      (ofParameter other.source limits station parameter) := by
  apply unlessCancelled_alikeBy
  cases hkey : parameter.canonicalKey with
  | error failure =>
      rw [measurementsOf_of_no_key hkey, measurementsOf_of_no_key hkey, pure_bind, pure_bind]
      exact goOn_alikeBy (.inl rfl) (fun _ hlisted => nomatch hlisted) rfl
  | ok key =>
      rw [measurementsOf_of_key hkey, measurementsOf_of_key hkey]
      apply AlikeBy.bind (Turn.Matches.alikeBy hmatches.name _ (hmatches.measurements _))
      intro outcome twin houtcome
      exact goOn_alikeBy houtcome
        (fun measurements _ => AlikeBy.pure (agree_ofContribution ⟨key, hkey⟩)) rfl

theorem ofStation_alikeBy (hmatches : conduct.Matches other) (limits : Limits)
    (station : Station) :
    AlikeBy Agree (ofStation conduct.source limits station)
      (ofStation other.source limits station) := by
  apply unlessCancelled_alikeBy
  apply AlikeBy.bind (Turn.Matches.alikeBy hmatches.name _ (hmatches.parameters station.id))
  intro outcome twin houtcome
  exact goOn_alikeBy houtcome
    (fun parameters _ => inTurn_alikeBy (ofParameter_alikeBy hmatches limits station) parameters)
    rfl

theorem stationsOf_alikeBy (hmatches : conduct.Matches other) (region : Region) :
    AlikeBy SameOrQuiet (stationsOf conduct.source region).run
      (stationsOf other.source region).run := by
  intro stage twin halike
  obtain ⟨entries, hrun⟩ := stationsOf_run conduct region stage
  obtain ⟨entries', hrun'⟩ := stationsOf_run other region twin
  obtain ⟨houtcome, hafter⟩ :=
    Turn.Matches.alikeBy hmatches.name .stations hmatches.stations halike
  rw [hrun, hrun']
  exact ⟨houtcome.bind (here_nil region), hafter.world, hafter.isCancelled, hafter.calls⟩

/-- Sources collect the same that have the same stations in a region and the same visits to them. -/
theorem ofSource_alikeBy_of_visits {region : Region} {limits : Limits}
    (hstations : AlikeBy SameOrQuiet (stationsOf conduct.source region).run
      (stationsOf other.source region).run)
    (hvisit : ∀ station, AlikeBy Agree (ofStation conduct.source limits station)
      (ofStation other.source limits station)) :
    AlikeBy Agree (ofSource region limits conduct.source)
      (ofSource region limits other.source) := by
  apply AlikeBy.bind hstations
  intro outcome twin houtcome
  have hvisits : ∀ stations, outcome = .ok stations →
      AlikeBy Agree (inTurn (ofStation conduct.source limits) stations)
        (inTurn (ofStation other.source limits) stations) :=
    fun stations _ => inTurn_alikeBy hvisit stations
  apply AlikeBy.bind (goOn_alikeBy houtcome hvisits rfl)
  intro collection another hagree
  have hsame := hagree.same
  subst hsame
  by_cases hcut : collection.isCut
  · simp only [hcut, if_true]
    exact AlikeBy.note_left (AlikeBy.note_right (AlikeBy.pure hagree))
  · simp only [hcut]
    exact AlikeBy.pure hagree

/-- A source collects the same with its failures taken for no data. -/
theorem ofSource_alikeBy (hmatches : conduct.Matches other) (region : Region) (limits : Limits) :
    AlikeBy Agree (ofSource region limits conduct.source)
      (ofSource region limits other.source) :=
  ofSource_alikeBy_of_visits (stationsOf_alikeBy hmatches region)
    (ofStation_alikeBy hmatches limits)

end Collection

end AirQuality
