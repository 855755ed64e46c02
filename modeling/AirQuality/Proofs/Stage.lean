import AirQuality.Aggregation
import AirQuality.Source.Script

/-!
# Sources at work

A source may do anything when it is called: it answers or fails, it changes the world it shares
with other sources, and the work may be cancelled meanwhile.  A stage holds what is around the
calls, and remembers which calls were made and whether each of them came too late.
-/

namespace AirQuality

/-- A call that was made, and whether the work was already cancelled when it started. -/
structure Made where
  source : String
  call : Call
  isLate : Bool

structure Stage (ω : Type) where
  world : ω
  isCancelled : Bool
  calls : List Made
  entries : List Log.Entry

/-- A stage before anything has been done. -/
def Stage.fresh {ω : Type} (world : ω) : Stage ω := ⟨world, false, [], []⟩

/-- What a call comes to, and what the next step of the work finds: the world, and whether the
work is cancelled by then.  Between two calls of a source other sources may have been asked. -/
structure Turn (ω α : Type) where
  outcome : Except Failure (List α)
  world : ω
  isCancelled : Bool

/-- How a source behaves when it is called. -/
structure Conduct (ω : Type) where
  name : String
  stations : ω → Turn ω Station
  parameters : (stationId : String) → ω → Turn ω Parameter
  measurements : Query → ω → Turn ω Measurement

variable {ω α β : Type}

/-- The stage after a call. -/
def Stage.after (stage : Stage ω) (source : String) (call : Call) (turn : Turn ω α) : Stage ω where
  world := turn.world
  isCancelled := turn.isCancelled
  calls := stage.calls ++ [⟨source, call, stage.isCancelled⟩]
  entries := stage.entries

/-- A call to a source on a stage. -/
def Stage.call (source : String) (call : Call) (turn : ω → Turn ω α) :
    ExceptT Failure (StateM (Stage ω)) (List α) := fun stage =>
  ((turn stage.world).outcome, stage.after source call (turn stage.world))

def Conduct.source (conduct : Conduct ω) : Source (StateM (Stage ω)) where
  name := conduct.name
  stations := Stage.call conduct.name .stations conduct.stations
  parameters stationId :=
    Stage.call conduct.name (.parameters stationId) (conduct.parameters stationId)
  measurements query := Stage.call conduct.name (.measurements query) (conduct.measurements query)

instance : Watched (StateM (Stage ω)) where
  note entry := fun stage => ((), { stage with entries := stage.entries ++ [entry] })
  isCancelled := fun stage => (stage.isCancelled, stage)

namespace Stage

theorem bind_apply (work : StateM (Stage ω) α) (next : α → StateM (Stage ω) β)
    (stage : Stage ω) : (work >>= next) stage = next (work stage).1 (work stage).2 := rfl

/-! ### Work that only writes entries -/

/-- Work that comes to a value on every stage, which it leaves as it was but for the entries. -/
def OnlyNotes (work : StateM (Stage ω) α) (value : α) : Prop :=
  ∀ stage, ∃ entries, work stage = (value, { stage with entries := entries })

theorem OnlyNotes.pure (value : α) : OnlyNotes (pure value : StateM (Stage ω) α) value :=
  fun stage => ⟨stage.entries, rfl⟩

theorem OnlyNotes.bind {work : StateM (Stage ω) α} {value : α}
    {next : α → StateM (Stage ω) β} {result : β} (hwork : OnlyNotes work value)
    (hnext : OnlyNotes (next value) result) : OnlyNotes (work >>= next) result := by
  intro stage
  obtain ⟨entries, hstage⟩ := hwork stage
  obtain ⟨others, hresult⟩ := hnext { stage with entries := entries }
  refine ⟨others, ?_⟩
  rw [bind_apply, hstage]
  exact hresult

/-- Work that may fail goes on only with a value. -/
theorem OnlyNotes.run_bind {work : ExceptT Failure (StateM (Stage ω)) α}
    {outcome : Except Failure α} {next : α → ExceptT Failure (StateM (Stage ω)) β}
    {result : α → Except Failure β} (hwork : OnlyNotes work.run outcome)
    (hnext : ∀ value, OnlyNotes (next value).run (result value)) :
    OnlyNotes (work >>= next).run (outcome >>= result) := by
  rw [ExceptT.run_bind]
  apply hwork.bind
  cases outcome with
  | error failure => exact OnlyNotes.pure _
  | ok value => exact hnext value

/-- Work that writes entries only, with what a call has listed. -/
theorem call_bind_run {turn : ω → Turn ω α} {source : String} {kind : Call}
    {next : List α → ExceptT Failure (StateM (Stage ω)) β} {result : List α → Except Failure β}
    (hnext : ∀ items, OnlyNotes (next items).run (result items)) (stage : Stage ω) :
    ∃ entries, (Stage.call source kind turn >>= next).run stage =
      ((turn stage.world).outcome >>= result,
        { stage.after source kind (turn stage.world) with entries := entries }) := by
  rw [ExceptT.run_bind, bind_apply]
  have hcall : (Stage.call source kind turn).run stage =
      ((turn stage.world).outcome, stage.after source kind (turn stage.world)) := rfl
  rw [hcall]
  cases (turn stage.world).outcome with
  | error failure => exact OnlyNotes.pure (Except.error failure) _
  | ok items => exact hnext items _

/-! ### Stages that differ in their entries -/

/-- Stages that are the same but for the entries. -/
structure Alike (stage other : Stage ω) : Prop where
  world : stage.world = other.world
  isCancelled : stage.isCancelled = other.isCancelled
  calls : stage.calls = other.calls

theorem Alike.refl (stage : Stage ω) : stage.Alike stage := ⟨rfl, rfl, rfl⟩

theorem Alike.symm {stage other : Stage ω} (halike : stage.Alike other) : other.Alike stage :=
  ⟨halike.world.symm, halike.isCancelled.symm, halike.calls.symm⟩

theorem Alike.trans {stage other third : Stage ω} (hfirst : stage.Alike other)
    (hsecond : other.Alike third) : stage.Alike third :=
  ⟨hfirst.world.trans hsecond.world, hfirst.isCancelled.trans hsecond.isCancelled,
    hfirst.calls.trans hsecond.calls⟩

theorem Alike.after {stage twin : Stage ω} (halike : stage.Alike twin) (name : String)
    (kind : Call) (turn : Turn ω α) :
    (stage.after name kind turn).Alike (twin.after name kind turn) := by
  refine ⟨rfl, rfl, ?_⟩
  change stage.calls ++ [⟨_, _, stage.isCancelled⟩] = twin.calls ++ [⟨_, _, twin.isCancelled⟩]
  rw [halike.calls, halike.isCancelled]

/-- Both pieces of work come to related values, and leave alike what they found alike. -/
def AlikeBy (R : α → β → Prop) (work : StateM (Stage ω) α) (other : StateM (Stage ω) β) : Prop :=
  ∀ ⦃stage twin : Stage ω⦄, stage.Alike twin →
    R (work stage).1 (other twin).1 ∧ (work stage).2.Alike (other twin).2

namespace AlikeBy

variable {α' β' : Type} {R : α → α' → Prop} {S : β → β' → Prop}

theorem pure {value : α} {other : α'} (hvalue : R value other) :
    AlikeBy R (pure value : StateM (Stage ω) α) (pure other) :=
  fun _ _ halike => ⟨hvalue, halike⟩

theorem bind {work : StateM (Stage ω) α} {other : StateM (Stage ω) α'}
    {next : α → StateM (Stage ω) β} {others : α' → StateM (Stage ω) β'}
    (hwork : AlikeBy R work other)
    (hnext : ∀ value twin, R value twin → AlikeBy S (next value) (others twin)) :
    AlikeBy S (work >>= next) (other >>= others) := by
  intro stage twin halike
  obtain ⟨hvalue, hafter⟩ := hwork halike
  exact hnext _ _ hvalue hafter

/-- An entry more on one side makes no difference. -/
theorem note_left {entry : Log.Entry} {work : StateM (Stage ω) β} {other : StateM (Stage ω) β'}
    (hwork : AlikeBy S work other) : AlikeBy S (Watched.note entry >>= fun _ => work) other :=
  fun _ _ halike => hwork ⟨halike.world, halike.isCancelled, halike.calls⟩

theorem note_right {entry : Log.Entry} {work : StateM (Stage ω) β} {other : StateM (Stage ω) β'}
    (hwork : AlikeBy S work other) : AlikeBy S work (Watched.note entry >>= fun _ => other) :=
  fun _ _ halike => hwork ⟨halike.world, halike.isCancelled, halike.calls⟩

end AlikeBy

end Stage

end AirQuality
