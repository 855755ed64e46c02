import AirQuality.Proofs.Plan

/-!
# Fetching from a provider that answers

A provider supplies its payloads if every request brings the payload of its address, at the first
attempt and whatever was asked before.  Carried out on behalf of a caller without a token, a plan
then comes to its answer: neither the clock nor the rate limit nor the log has a say in it.
-/

namespace AirQuality

variable {τ α : Type}

/-- Ways to fetch whose outcome for a caller without a token is the reply to the request. -/
def IsSteady (fetch : Request → Fetching τ Json) (reply : Request → Except Failure Json) : Prop :=
  ∀ (request : Request) (session : Session τ), session.token = none →
    (fetch request session).1 = reply request ∧ (fetch request session).2.token = none

theorem Plan.perform_of_isSteady {fetch : Request → Fetching τ Json}
    {reply : Request → Except Failure Json} (hsteady : IsSteady fetch reply)
    (plan : Plan α) (session : Session τ) (htoken : session.token = none) :
    (plan.perform fetch session).1 = plan.answer reply := by
  induction plan generalizing session with
  | done value => rfl
  | note entry next ih => exact ih _ htoken
  | unfinished => rfl
  | request wanted next ih =>
      obtain ⟨houtcome, hnext⟩ := hsteady wanted session htoken
      rw [perform_request, houtcome]
      exact ih _ _ hnext

theorem Work.perform_of_isSteady {fetch : Request → Fetching τ Json}
    {reply : Request → Except Failure Json} (hsteady : IsSteady fetch reply)
    (work : Work α) (session : Session τ) (htoken : session.token = none) :
    (work.perform fetch session).1 = work.answer reply := by
  have hplan := Plan.perform_of_isSteady hsteady work.run session htoken
  simp only [Work.perform, Work.answer, ← hplan]
  generalize work.run.perform fetch session = performed
  obtain ⟨outcome, after⟩ := performed
  cases outcome with
  | ok outcome => rfl
  | error failure => rfl

/-- A provider that brings the payload of a request whatever was asked before. -/
def Remote.Supplies (remote : Remote τ) (upstream : Request → Json) : Prop :=
  ∀ (earlier : List Request) (request : Request),
    (remote earlier request).reply.payload request.url = .ok (upstream request)

/-- The provider that brings each payload at once. -/
def Remote.ofUpstream [OfNat τ 0] (upstream : Request → Json) : Remote τ := fun _ request =>
  ⟨.answer 200 "OK" (.value (upstream request)), 0, false⟩

theorem Remote.supplies_ofUpstream [OfNat τ 0] (upstream : Request → Json) :
    (Remote.ofUpstream upstream : Remote τ).Supplies upstream := fun _ _ => rfl

namespace Fetcher

variable [Add τ] [Sub τ] [OfNat τ 0] [LT τ] [LE τ] [DecidableLT τ] [DecidableLE τ] [TimeText τ]

theorem pause_of_untokened (fetcher : Fetcher τ) (seconds : τ) (session : Session τ)
    (htoken : session.token = none) :
    ∃ after : Session τ,
      fetcher.pause seconds session = (.ok (), after) ∧ after.token = none := by
  refine ⟨session.rested seconds (session.clock + seconds), ?_, htoken⟩
  simp [pause, Session.wait, Session.look, htoken]

theorem waitForSlot_of_untokened (fetcher : Fetcher τ) (session : Session τ)
    (htoken : session.token = none) :
    ∃ after : Session τ, fetcher.waitForSlot session = (.ok (), after) ∧ after.token = none := by
  unfold waitForSlot
  cases session.lastSuccess with
  | none => exact ⟨session, rfl, htoken⟩
  | some last =>
      simp only
      split
      · exact fetcher.pause_of_untokened _ _ htoken
      · exact ⟨session, rfl, htoken⟩

omit [Sub τ] [OfNat τ 0] [LT τ] [LE τ] [DecidableLT τ] [DecidableLE τ] [TimeText τ] in
theorem ask_of_payload (fetcher : Fetcher τ) (remote : Remote τ) (request : Request)
    (session : Session τ) (payload : Json) (htoken : session.token = none)
    (hpayload : (remote session.requests request).reply.payload request.url = .ok payload) :
    ∃ after : Session τ,
      fetcher.ask remote request session = (.ok payload, after) ∧ after.token = none := by
  simp only [ask, hpayload]
  refine ⟨_, rfl, ?_⟩
  split <;> simp [Session.asked, Session.note, Session.atTime, htoken]

theorem attempt_of_supplies (fetcher : Fetcher τ) {remote : Remote τ}
    {upstream : Request → Json} (hsupplies : remote.Supplies upstream) (request : Request)
    (session : Session τ) (htoken : session.token = none) :
    ∃ after : Session τ,
      fetcher.attempt remote request session = (.ok (upstream request), after) ∧
        after.token = none := by
  have hlook : (checkToken : Attempt τ Unit) session = (.ok (), session) := by
    simp [checkToken, Session.checkToken, Session.look, htoken]
  obtain ⟨slot, hslot, hslotToken⟩ := fetcher.waitForSlot_of_untokened session htoken
  obtain ⟨after, hask, hafter⟩ := fetcher.ask_of_payload remote request slot
    (upstream request) hslotToken (hsupplies slot.requests request)
  refine ⟨after, ?_, hafter⟩
  simp only [attempt, bind, ExceptT.bind, ExceptT.mk, StateT.bind, ExceptT.bindCont, hlook, hslot,
    hask]

/-- Fetching from a provider that supplies its payloads brings them. -/
theorem isSteady_fetch (fetcher : Fetcher τ) {remote : Remote τ} {upstream : Request → Json}
    (hsupplies : remote.Supplies upstream) :
    IsSteady (fetcher.fetch remote) fun request => .ok (upstream request) := by
  intro request session htoken
  obtain ⟨after, hattempt, hafter⟩ := fetcher.attempt_of_supplies hsupplies request session htoken
  have hattempts : fetcher.attempts remote request fetcher.retries session =
      (.ok (upstream request), after) := by
    cases fetcher.retries with
    | zero => exact hattempt
    | succ more => simp only [attempts, hattempt]
  simp only [fetch, hattempts]
  exact ⟨trivial, hafter⟩

/-- Work carried out with such a provider comes to its answer. -/
theorem perform_of_supplies (fetcher : Fetcher τ) {remote : Remote τ}
    {upstream : Request → Json} (hsupplies : remote.Supplies upstream) (work : Work α)
    (session : Session τ) (htoken : session.token = none) :
    (work.perform (fetcher.fetch remote) session).1 =
      work.answer fun request => .ok (upstream request) :=
  Work.perform_of_isSteady (fetcher.isSteady_fetch hsupplies) work session htoken

end Fetcher

end AirQuality
