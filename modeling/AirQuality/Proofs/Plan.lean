import AirQuality.Plan
import AirQuality.Proofs.Outcome

/-!
# Answers of plans

A provider that gives one reply to each request settles what a plan comes to, whatever the clock
and the log say meanwhile.  The answer of a plan is that outcome, and it is compositional: the
answer of two pieces of work in a row is the answer of the second on the answer of the first.
-/

namespace AirQuality

variable {α β : Type}

namespace Plan

theorem bind_done (plan : Plan α) : plan.bind .done = plan := by
  induction plan with
  | done value => rfl
  | request wanted next ih => simp only [bind, ih]
  | note entry next ih => simp only [bind, ih]
  | unfinished => rfl

theorem bind_assoc {γ : Type} (plan : Plan α) (next : α → Plan β) (last : β → Plan γ) :
    (plan.bind next).bind last = plan.bind fun value => (next value).bind last := by
  induction plan with
  | done value => rfl
  | request wanted rest ih => simp only [bind, ih]
  | note entry rest ih => simp only [bind, ih]
  | unfinished => rfl

instance : LawfulMonad Plan := LawfulMonad.mk' Plan bind_done (fun _ _ => rfl) bind_assoc

variable (reply : Request → Except Failure Json)

/-- What a plan comes to when each request has a settled reply. -/
def answer : Plan α → Except Failure α
  | .done value => .ok value
  | .request wanted next => (next (reply wanted)).answer
  | .note _ next => next.answer
  | .unfinished => .error .unfinished

theorem answer_bind (plan : Plan α) (next : α → Plan β) :
    (plan.bind next).answer reply =
      plan.answer reply >>= fun value => (next value).answer reply := by
  induction plan with
  | done value => rfl
  | request wanted rest ih => simp only [bind, answer, ih]
  | note entry rest ih => simp only [bind, answer, ih]
  | unfinished => rfl

/-! ### Plans carried out -/

section

variable {τ : Type} (fetch : Request → Fetching τ Json)

/-- Whatever a request comes to is handed on. -/
theorem perform_request (wanted : Request) (next : Except Failure Json → Plan α)
    (session : Session τ) :
    (Plan.request wanted next).perform fetch session =
      (next (fetch wanted session).1).perform fetch (fetch wanted session).2 := rfl

/-- What comes after a plan is carried out where the plan has come to its end. -/
theorem perform_bind {plan : Plan α} {value : α} {session later : Session τ}
    (hplan : plan.perform fetch session = (.ok value, later)) (next : α → Plan β) :
    (plan.bind next).perform fetch session = (next value).perform fetch later := by
  induction plan generalizing session with
  | done result =>
      cases hplan
      rfl
  | request wanted rest ih => exact ih _ hplan
  | note entry rest ih => exact ih hplan
  | unfinished => cases hplan

end

end Plan

namespace Work

variable (reply : Request → Except Failure Json)

/-- What work comes to when each request has a settled reply. -/
def answer (work : Work α) : Except Failure α := (work.run.answer reply).bind id

@[simp]
theorem answer_pure (value : α) : answer reply (pure value) = .ok value := rfl

@[simp]
theorem answer_lift (outcome : Except Failure α) : answer reply (lift outcome) = outcome := rfl

@[simp]
theorem answer_note (level : Log.Level) (topic : Log.Topic) (text : String) :
    answer reply (note level topic text) = .ok () := rfl

@[simp]
theorem answer_bind (work : Work α) (next : α → Work β) :
    answer reply (work >>= next) =
      answer reply work >>= fun value => answer reply (next value) := by
  unfold answer
  rw [ExceptT.run_bind]
  change Except.bind (Plan.answer reply (Plan.bind work.run _)) id = _
  rw [Plan.answer_bind]
  cases work.run.answer reply with
  | error failure => rfl
  | ok outcome =>
      cases outcome with
      | error failure => rfl
      | ok value => rfl

/-! ### Guards -/

section Handlers

variable {topic : Log.Topic} {name : String} {fallback : α} {failure : Failure}

theorem handle_of_cancelled (hcancelled : failure.isCancelled = true) :
    handle topic name fallback (.error failure) = .done (.error failure) := if_pos hcancelled

theorem handle_of_uncancelled (hother : failure.isCancelled = false) :
    handle topic name fallback (.error failure) =
      .note (Log.degraded topic name failure) (.done (.ok fallback)) :=
  if_neg (Bool.eq_false_iff.mp hother)

/-- A guard comes to what is left of an outcome, with an entry perhaps. -/
theorem handle_cases (topic : Log.Topic) (name : String) (fallback : α)
    (outcome : Except Failure α) :
    handle topic name fallback outcome = .done (Outcome.degraded fallback outcome) ∨
      ∃ entry, handle topic name fallback outcome =
        .note entry (.done (Outcome.degraded fallback outcome)) := by
  cases outcome with
  | ok value => exact .inl rfl
  | error failure =>
      cases hcancelled : failure.isCancelled with
      | true =>
          rw [handle_of_cancelled hcancelled, Outcome.degraded_of_cancelled hcancelled]
          exact .inl rfl
      | false =>
          rw [handle_of_uncancelled hcancelled,
            Outcome.degraded_of_uncancelled (Outcome.uncancelled_error hcancelled)]
          exact .inr ⟨_, rfl⟩

end Handlers

/-- A guard on work that is carried out is the guard on its outcome, with the same entry in the
log. -/
theorem perform_degrade {τ : Type} {fetch : Request → Fetching τ Json} {work : Work α}
    {outcome : Except Failure α} {session later : Session τ}
    (hwork : work.run.perform fetch session = (.ok outcome, later)) (topic : Log.Topic)
    (name : String) (fallback : α) :
    perform fetch (degrade topic name fallback work) session =
      match Logged.degrade topic name (fun _ => true) fallback (Logged.lift outcome) later.entries
        with
      | (result, entries) => (result, { later with entries := entries }) := by
  unfold perform degrade
  rw [ExceptT.run_mk, Plan.perform_bind fetch hwork]
  cases outcome with
  | ok value => rfl
  | error failure =>
      cases hcancelled : failure.isCancelled with
      | true =>
          rw [handle_of_cancelled hcancelled]
          simp only [Logged.degrade, Logged.lift, hcancelled]
          rfl
      | false =>
          rw [handle_of_uncancelled hcancelled]
          simp only [Logged.degrade, Logged.lift, hcancelled]
          rfl

/-- Work within a guard comes to what the guard leaves of its outcome. -/
theorem answer_degrade {topic : Log.Topic} {name : String} {fallback : α} {work : Work α}
    {outcome : Except Failure α} (houtcome : work.run.answer reply = .ok outcome) :
    answer reply (degrade topic name fallback work) = Outcome.degraded fallback outcome := by
  unfold answer degrade
  change Except.bind (Plan.answer reply (Plan.bind work.run _)) id = _
  rw [Plan.answer_bind, houtcome, Outcome.ok_bind]
  rcases handle_cases topic name fallback outcome with hhandle | ⟨entry, hhandle⟩
  · rw [hhandle]
    rfl
  · rw [hhandle]
    rfl

/-- Work that comes to a value needs no fallback. -/
theorem answer_degrade_of_ok {topic : Log.Topic} {name : String} {fallback value : α}
    {work : Work α} (hvalue : answer reply work = .ok value) :
    answer reply (degrade topic name fallback work) = .ok value := by
  unfold answer at hvalue
  cases houtcome : work.run.answer reply with
  | error failure =>
      rw [houtcome] at hvalue
      cases hvalue
  | ok outcome =>
      rw [houtcome] at hvalue
      obtain rfl : outcome = .ok value := hvalue
      exact answer_degrade reply houtcome

end Work

end AirQuality
