import AirQuality.Proofs.Region
import AirQuality.Proofs.Stage

/-!
# Collecting on a stage

What the steps of a collection come to where the calls have turns: the stations of a source are
the stations listed that are in the region, and the measurements of a parameter are those listed
under its key.
-/

namespace AirQuality.Collection

open Outcome
open Stage (OnlyNotes bind_apply)

variable {ω α : Type}

/-! ### Visits -/

theorem unlessCancelled_apply (visit : StateM (Stage ω) Collection) (stage : Stage ω) :
    unlessCancelled visit stage = if stage.isCancelled then (cut, stage) else visit stage := by
  change (if stage.isCancelled then (pure cut : StateM (Stage ω) Collection) else visit) stage = _
  by_cases hcancelled : stage.isCancelled
  · rw [if_pos hcancelled, if_pos hcancelled]
    rfl
  · rw [if_neg hcancelled, if_neg hcancelled]

/-- The first visit, and the others where it was not cut short. -/
theorem inTurn_cons_apply (visit : α → StateM (Stage ω) Collection) (item : α) (rest : List α)
    (stage : Stage ω) :
    inTurn visit (item :: rest) stage =
      if (visit item stage).1.isCut then visit item stage
      else
        ((visit item stage).1.followedBy (inTurn visit rest (visit item stage).2).1,
          (inTurn visit rest (visit item stage).2).2) := by
  rw [inTurn, bind_apply]
  by_cases hcut : (visit item stage).1.isCut
  · simp only [if_pos hcut]
    rfl
  · simp only [if_neg hcut]
    rfl

/-! ### Stations -/

/-- Whether a station is in a region. -/
def isHere (region : Region) (station : Station) : Except Failure Bool := do
  if ← station.position.isValid then region.holds station.position else pure false

theorem isHere_of_check {region : Region} {station : Station}
    (hcheck : station.position.check = .ok ()) :
    isHere region station = region.contains station.position := by
  have hvalid : station.position.isValid = .ok true := by
    unfold Coordinate.isValid
    rw [hcheck]
  simp only [isHere, hvalid, ok_bind, if_true, Region.holds, hcheck]

/-- The stations in a region. -/
def here (region : Region) : List Station → Except Failure (List Station)
  | [] => .ok []
  | station :: rest => do
    let isInside ← isHere region station
    let others ← here region rest
    pure (if isInside then station :: others else others)

@[simp]
theorem here_nil (region : Region) : here region [] = .ok [] := rfl

theorem uncancelled_isHere (region : Region) (station : Station) :
    Uncancelled (isHere region station) := by
  apply (Coordinate.uncancelled_isValid station.position).bind
  intro isValid
  cases isValid with
  | true => exact region.uncancelled_holds station.position
  | false => exact uncancelled_ok false

theorem uncancelled_here (region : Region) (stations : List Station) :
    Uncancelled (here region stations) := by
  induction stations with
  | nil => exact uncancelled_ok []
  | cons station rest ih =>
      apply (uncancelled_isHere region station).bind
      intro isInside
      exact ih.bind fun _ => uncancelled_ok _

theorem run_debug_onlyNotes (topic : Log.Topic) (text : String) :
    OnlyNotes (Watched.debug topic text : ExceptT Failure (StateM (Stage ω)) Unit).run (.ok ()) :=
  fun stage => ⟨stage.entries ++ [⟨.debug, topic, text⟩], rfl⟩

theorem isInside_onlyNotes (region : Region) (station : Station) :
    OnlyNotes (isInside region station : ExceptT Failure (StateM (Stage ω)) Bool).run
      (isHere region station) := by
  apply OnlyNotes.run_bind (OnlyNotes.pure station.position.isValid)
  intro isValid
  cases isValid with
  | true => exact OnlyNotes.pure (region.holds station.position)
  | false =>
      change OnlyNotes _ (Except.ok () >>= fun _ => Except.ok false)
      exact OnlyNotes.run_bind (run_debug_onlyNotes _ _) fun _ => OnlyNotes.pure (Except.ok false)

theorem inside_onlyNotes (region : Region) (stations : List Station) :
    OnlyNotes (inside region stations : ExceptT Failure (StateM (Stage ω)) (List Station)).run
      (here region stations) := by
  induction stations with
  | nil => exact OnlyNotes.pure (Except.ok [])
  | cons station rest ih =>
      apply OnlyNotes.run_bind (isInside_onlyNotes region station)
      intro isInside
      exact OnlyNotes.run_bind ih fun others => OnlyNotes.pure (Except.ok _)

/-- The stations of a source are the listed ones that are in the region. -/
theorem stationsOf_run (conduct : Conduct ω) (region : Region) (stage : Stage ω) :
    ∃ entries, (stationsOf conduct.source region).run stage =
      ((conduct.stations stage.world).outcome >>= here region,
        { stage.after conduct.name .stations (conduct.stations stage.world) with
          entries := entries }) := by
  apply Stage.call_bind_run
  intro stations
  rw [← bind_pure (here region stations)]
  apply OnlyNotes.run_bind (inside_onlyNotes region stations)
  intro kept
  change OnlyNotes _ (Except.ok () >>= fun _ => Except.ok kept)
  exact OnlyNotes.run_bind (run_debug_onlyNotes _ _) fun _ => OnlyNotes.pure (Except.ok kept)

/-! ### Measurements -/

theorem uncancelled_canonicalKey (parameter : Parameter) :
    Uncancelled parameter.canonicalKey := by
  unfold Parameter.canonicalKey CanonicalKey.ofJson
  cases parameter.rawName with
  | null => exact uncancelled_ok _
  | text name => exact uncancelled_ok _
  | _ => exact uncancelled_error rfl

variable {source : Source (StateM (Stage ω))} {limits : Limits} {station : Station}
  {parameter : Parameter}

theorem measurementsOf_of_key {key : String} (hkey : parameter.canonicalKey = .ok key) :
    measurementsOf source limits station parameter =
      source.measurements ⟨station.id, parameter.id, limits, some key⟩ := by
  unfold measurementsOf
  rw [hkey]
  rfl

theorem measurementsOf_of_no_key {failure : Failure}
    (hkey : parameter.canonicalKey = .error failure) :
    (measurementsOf source limits station parameter).run = pure (.error failure) := by
  unfold measurementsOf
  rw [hkey]
  rfl

/-! ### Sources -/

def sourceFailed (conduct : Conduct ω) (failure : Failure) : String :=
  s!"{conduct.name}: source failed, skipping it: {failure.message}"

/-- What visiting the stations of a source comes to, once they are listed. -/
def visits (conduct : Conduct ω) (limits : Limits) (stations : Except Failure (List Station)) :
    StateM (Stage ω) Collection :=
  goOn (sourceFailed conduct) (inTurn (ofStation conduct.source limits)) stations

/-- Everything a source contributes comes from its stations that are in the region. -/
theorem ofSource_run (conduct : Conduct ω) (region : Region) (limits : Limits)
    (stage : Stage ω) :
    ∃ noted entries,
      (stage.after conduct.name .stations (conduct.stations stage.world)).Alike noted ∧
      ofSource region limits conduct.source stage =
        let visited := visits conduct limits
          ((conduct.stations stage.world).outcome >>= here region) noted
        (visited.1, { visited.2 with entries := entries }) := by
  obtain ⟨entries, hrun⟩ := stationsOf_run conduct region stage
  let noted : Stage ω :=
    { stage.after conduct.name .stations (conduct.stations stage.world) with entries := entries }
  let visited := visits conduct limits
    ((conduct.stations stage.world).outcome >>= here region) noted
  have hend : ofSource region limits conduct.source stage =
      (if visited.1.isCut then
        Watched.warn .aggregation (cutText conduct.source visited.1) >>= fun _ =>
          (pure visited.1 : StateM (Stage ω) Collection)
      else pure visited.1) visited.2 := by
    rw [ofSource, bind_apply, hrun]
    rfl
  by_cases hcut : visited.1.isCut
  · rw [if_pos hcut] at hend
    exact ⟨noted, _, ⟨rfl, rfl, rfl⟩, hend⟩
  · rw [if_neg hcut] at hend
    exact ⟨noted, _, ⟨rfl, rfl, rfl⟩, hend⟩

end AirQuality.Collection
