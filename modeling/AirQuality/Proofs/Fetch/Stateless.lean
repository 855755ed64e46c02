import AirQuality.Proofs.Fetch.Retry
import AirQuality.Proofs.Plan.Cancellation

/-!
# Fetching from a provider whose replies are fixed

A provider may have one reply to each request, be it a payload or a fault, whatever was asked
before.  To try such a request again brings the same reply again, so a fetch comes to what that
reply says, however often it was tried, and work that is carried out comes to its answer, unless the
token of its caller cancels it.
-/

namespace AirQuality

open Outcome

variable {τ α : Type}

/-- A call that comes to one outcome in every session, unless the token of its caller cancels it. -/
def Fetching.Settles (work : Fetching τ α) (outcome : Except Failure α) : Prop :=
  ∀ session : Session τ,
    ((∃ message, (work session).1 = .error (.cancelled message)) ∧ session.token ≠ none) ∨
      (work session).1 = outcome

/-- Ways to fetch that settle each request. -/
structure IsSettled (fetch : Request → Fetching τ Json)
    (reply : Request → Except Failure Json) : Prop where
  settles : ∀ request, Fetching.Settles (fetch request) (reply request)
  token : ∀ (request : Request) (session : Session τ),
    (fetch request session).2.token = none ↔ session.token = none

variable {fetch : Request → Fetching τ Json} {reply : Request → Except Failure Json}

/-- A plan that raises cancellations again comes to its answer unless it is cancelled. -/
theorem Plan.Reraises.settles (hsettled : IsSettled fetch reply)
    {plan : Plan (Except Failure α)} (hplan : plan.Reraises) (session : Session τ) :
    ((∃ message, (plan.perform fetch session).1 = .ok (.error (.cancelled message))) ∧
        session.token ≠ none) ∨
      (plan.perform fetch session).1 = plan.answer reply := by
  induction plan generalizing session with
  | done value => exact .inr rfl
  | note entry next ih => exact ih hplan { session with entries := session.entries ++ [entry] }
  | unfinished => exact .inr rfl
  | request wanted next ih =>
      rcases hsettled.settles wanted session with ⟨⟨message, hcancelled⟩, htoken⟩ | hreply
      · left
        rw [hplan.perform_of_cancelled hcancelled rfl]
        exact ⟨⟨message, rfl⟩, htoken⟩
      · rw [perform_request, hreply]
        have hnext := ih (reply wanted) (hplan.2 _) (fetch wanted session).2
        exact hnext.imp_left fun hcut =>
          ⟨hcut.1, fun htoken => hcut.2 ((hsettled.token wanted session).mpr htoken)⟩

theorem Work.Reraises.settles (hsettled : IsSettled fetch reply) {work : Work α}
    (hwork : work.Reraises) : Fetching.Settles (work.perform fetch) (work.answer reply) := by
  intro session
  have hplan := Plan.Reraises.settles hsettled hwork session
  simp only [Work.perform, Work.answer]
  generalize work.run.perform fetch session = performed at hplan
  obtain ⟨outcome, after⟩ := performed
  rcases hplan with ⟨⟨message, hcancelled⟩, htoken⟩ | hanswer
  · obtain rfl : outcome = .ok (.error (.cancelled message)) := hcancelled
    exact .inl ⟨⟨message, rfl⟩, htoken⟩
  · obtain rfl : outcome = work.run.answer reply := hanswer
    right
    cases work.run.answer reply with
    | ok outcome => rfl
    | error failure => rfl

/-- A provider that has one reply to each request, whatever was asked before. -/
def Remote.IsStateless (remote : Remote τ) (upstream : Request → Reply) : Prop :=
  ∀ (earlier : List Request) (request : Request), (remote earlier request).reply = upstream request

/-- The provider that gives each of its replies at once. -/
def Remote.ofReplies [OfNat τ 0] (upstream : Request → Reply) : Remote τ := fun _ request =>
  ⟨upstream request, 0, false⟩

theorem Remote.isStateless_ofReplies [OfNat τ 0] (upstream : Request → Reply) :
    (Remote.ofReplies upstream : Remote τ).IsStateless upstream := fun _ _ => rfl

namespace Fetcher

/-- What a fetch makes of the one reply to a request. -/
def settled (fetcher : Fetcher τ) (upstream : Request → Reply) (request : Request) :
    Except Failure Json :=
  fetcher.verdict request ((upstream request).payload request.url)

theorem uncancelled_settled (fetcher : Fetcher τ) (upstream : Request → Reply)
    (request : Request) : Uncancelled (fetcher.settled upstream request) := by
  unfold settled
  cases hpayload : (upstream request).payload request.url with
  | ok payload => exact uncancelled_ok payload
  | error fault =>
      cases fault with
      | refused label message isTransient => exact uncancelled_error rfl
      | other failure => exact uncancelled_error (Reply.payload_other hpayload).2

variable [Add τ] [Sub τ] [OfNat τ 0] [LT τ] [LE τ] [DecidableLT τ] [DecidableLE τ] [TimeText τ]

theorem isSettled_fetch (fetcher : Fetcher τ) {remote : Remote τ} {upstream : Request → Reply}
    (hstateless : remote.IsStateless upstream) :
    IsSettled (fetcher.fetch remote) (fetcher.settled upstream) where
  settles request session := by
    rcases fetcher.tried_fetch remote request session with
      ⟨hcancelled, hcut⟩ | ⟨count, -, -, houtcome⟩
    · refine .inl ⟨hcancelled, fun htoken => hcut.token_ne_none ?_⟩
      exact (fetcher.token_fetch_eq_none_iff remote request session).mpr htoken
    · right
      rw [houtcome, Remote.replyTo, hstateless]
      rfl
  token := fetcher.token_fetch_eq_none_iff remote

end Fetcher

end AirQuality
