import AirQuality.Proofs.Stage

/-!
# What a source answers

The calls made to a source settle what it answers, because each call finds the world as the calls
before it left it.  What is known of some work is a relation between the answers it was given and
what it comes to; such relations are put together like the work itself.
-/

namespace AirQuality

/-- What a source answers to a call. -/
inductive Answer where
  | stations (outcome : Except Failure (List Station))
  | parameters (stationId : String) (outcome : Except Failure (List Parameter))
  | measurements (query : Query) (outcome : Except Failure (List Measurement))

namespace Answer

def call : Answer → Call
  | .stations _ => .stations
  | .parameters stationId _ => .parameters stationId
  | .measurements query _ => .measurements query

def failure? : Answer → Option Failure
  | .stations (.error failure) => some failure
  | .parameters _ (.error failure) => some failure
  | .measurements _ (.error failure) => some failure
  | _ => none

end Answer

variable {ω α β : Type}

namespace Conduct

/-- The answer to a call. -/
def answer (conduct : Conduct ω) (world : ω) : Call → Answer
  | .stations => .stations (conduct.stations world).outcome
  | .parameters stationId => .parameters stationId (conduct.parameters stationId world).outcome
  | .measurements query => .measurements query (conduct.measurements query world).outcome

/-- The world after a call. -/
def next (conduct : Conduct ω) (world : ω) : Call → ω
  | .stations => (conduct.stations world).world
  | .parameters stationId => (conduct.parameters stationId world).world
  | .measurements query => (conduct.measurements query world).world

/-- The answers to calls that are made one after the other. -/
def answers (conduct : Conduct ω) : List Call → ω → List Answer
  | [], _ => []
  | call :: rest, world =>
    conduct.answer world call :: conduct.answers rest (conduct.next world call)

/-- The world after them. -/
def worldAfter (conduct : Conduct ω) (calls : List Call) (world : ω) : ω :=
  calls.foldl conduct.next world

variable (conduct : Conduct ω)

theorem call_answer (world : ω) (call : Call) : (conduct.answer world call).call = call := by
  cases call with
  | stations => rfl
  | parameters stationId => rfl
  | measurements query => rfl

theorem answers_append (calls others : List Call) (world : ω) :
    conduct.answers (calls ++ others) world =
      conduct.answers calls world ++ conduct.answers others (conduct.worldAfter calls world) := by
  induction calls generalizing world with
  | nil => rfl
  | cons call rest ih =>
      rw [List.cons_append, answers, answers, ih, List.cons_append]
      rfl

theorem worldAfter_append (calls others : List Call) (world : ω) :
    conduct.worldAfter (calls ++ others) world =
      conduct.worldAfter others (conduct.worldAfter calls world) :=
  List.foldl_append

/-- The answers that the calls between two stages were given. -/
structure Told (stage after : Stage ω) (told : List Answer) : Prop where
  calls : after.calls.map (·.call) = stage.calls.map (·.call) ++ told.map Answer.call
  answers : told = conduct.answers (told.map Answer.call) stage.world
  world : after.world = conduct.worldAfter (told.map Answer.call) stage.world

variable {conduct} {stage middle after : Stage ω} {told others : List Answer}

theorem Told.refl (stage : Stage ω) : conduct.Told stage stage [] :=
  ⟨(List.append_nil _).symm, rfl, rfl⟩

theorem Told.trans (hfirst : conduct.Told stage middle told)
    (hsecond : conduct.Told middle after others) : conduct.Told stage after (told ++ others) where
  calls := by
    rw [hsecond.calls, hfirst.calls, List.map_append, List.append_assoc]
  answers := by
    rw [List.map_append, answers_append, ← hfirst.answers, ← hfirst.world, ← hsecond.answers]
  world := by
    rw [List.map_append, worldAfter_append, ← hfirst.world, ← hsecond.world]

/-- Entries are no answers. -/
theorem Told.of_alike {other : Stage ω} (htold : conduct.Told stage after told)
    (halike : after.Alike other) : conduct.Told stage other told where
  calls := by rw [← halike.calls, htold.calls]
  answers := htold.answers
  world := by rw [← halike.world, htold.world]

/-- There is one list of answers between two stages. -/
theorem Told.unique (hfirst : conduct.Told stage after told)
    (hsecond : conduct.Told stage after others) : told = others := by
  have hcalls : told.map Answer.call = others.map Answer.call :=
    List.append_cancel_left (hfirst.calls.symm.trans hsecond.calls)
  rw [hfirst.answers, hsecond.answers, hcalls]

theorem told_answer (stage : Stage ω) (call : Call) {turn : Turn ω α}
    (hworld : turn.world = conduct.next stage.world call) :
    conduct.Told stage (stage.after conduct.name call turn) [conduct.answer stage.world call] where
  calls := by
    rw [List.map_singleton, conduct.call_answer]
    exact List.map_append
  answers := by
    rw [List.map_singleton, conduct.call_answer]
    rfl
  world := by
    rw [List.map_singleton, conduct.call_answer]
    exact hworld

end Conduct

/-! ### Work that is told answers -/

/-- Whatever answers a piece of work is told, they are related to what it comes to. -/
def Conduct.Relates (conduct : Conduct ω) (R : List Answer → Except Failure α → Prop)
    (work : ExceptT Failure (StateM (Stage ω)) α) : Prop :=
  ∀ stage, ∃ told, conduct.Told stage (work.run stage).2 told ∧ R told (work.run stage).1

namespace Conduct.Relates

variable {conduct : Conduct ω} {R : List Answer → Except Failure α → Prop}

theorem lift {outcome : Except Failure α} (houtcome : R [] outcome) :
    conduct.Relates R (Watched.lift outcome) :=
  fun stage => ⟨[], Told.refl stage, houtcome⟩

theorem lift_eq (outcome : Except Failure α) :
    conduct.Relates (fun told result => told = [] ∧ result = outcome) (Watched.lift outcome) :=
  lift ⟨rfl, rfl⟩

theorem pure {value : α} (hvalue : R [] (.ok value)) : conduct.Relates R (Pure.pure value) :=
  lift hvalue

/-- Work that goes on with a value is told what both parts are told. -/
theorem bind {S : List Answer → Except Failure β → Prop}
    {work : ExceptT Failure (StateM (Stage ω)) α} {next : α → ExceptT Failure (StateM (Stage ω)) β}
    {Q : α → List Answer → Except Failure β → Prop}
    (hwork : conduct.Relates R work) (hnext : ∀ value, conduct.Relates (Q value) (next value))
    (hfailed : ∀ told failure, R told (.error failure) → S told (.error failure))
    (hdone : ∀ told others value result, R told (.ok value) → Q value others result →
      S (told ++ others) result) : conduct.Relates S (work >>= next) := by
  intro stage
  obtain ⟨told, htold, hfirst⟩ := hwork stage
  rw [ExceptT.run_bind, Stage.bind_apply]
  cases hresult : (work.run stage).1 with
  | error failure =>
      rw [hresult] at hfirst
      exact ⟨told, htold, hfailed told failure hfirst⟩
  | ok value =>
      rw [hresult] at hfirst
      obtain ⟨others, hothers, hsecond⟩ := hnext value (work.run stage).2
      exact ⟨told ++ others, htold.trans hothers, hdone told others value _ hfirst hsecond⟩

variable (conduct)

theorem stations {R : List Answer → Except Failure (List Station) → Prop}
    (hanswer : ∀ outcome, R [.stations outcome] outcome) :
    conduct.Relates R conduct.source.stations :=
  fun stage => ⟨_, told_answer stage .stations rfl, hanswer _⟩

theorem parameters (stationId : String) {R : List Answer → Except Failure (List Parameter) → Prop}
    (hanswer : ∀ outcome, R [.parameters stationId outcome] outcome) :
    conduct.Relates R (conduct.source.parameters stationId) :=
  fun stage => ⟨_, told_answer stage (.parameters stationId) rfl, hanswer _⟩

theorem measurements (query : Query) {R : List Answer → Except Failure (List Measurement) → Prop}
    (hanswer : ∀ outcome, R [.measurements query outcome] outcome) :
    conduct.Relates R (conduct.source.measurements query) :=
  fun stage => ⟨_, told_answer stage (.measurements query) rfl, hanswer _⟩

end Conduct.Relates

end AirQuality
