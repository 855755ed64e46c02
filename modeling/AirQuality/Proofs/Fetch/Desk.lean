import AirQuality.Fetch.Desk
import AirQuality.Proofs.Fetch.Retry

/-!
# Runs of fetches

In a run, callers with and without tokens share a fetcher in any order, and time passes between
their fetches.  Whatever the provider does, each fetch is tried as often as its replies call for,
unless it is cancelled, and the counters and the last success agree with the requests issued.
-/

namespace AirQuality

variable {τ : Type}

namespace Desk

/-- What may happen at a desk. -/
inductive Act (τ : Type) where
  | give (name : String) (token : Token τ)
  | cancel (name : String)
  | pass (seconds : τ)
  | fetch (name : String) (request : Request)

/-- A fetch from a desk: the session it found, what it came to and the session it left. -/
structure Visit (τ : Type) where
  request : Request
  found : Session τ
  outcome : Except Failure Json
  left : Session τ

/-- The session as a caller finds it. -/
def foundBy (name : String) (desk : Desk τ) : Session τ :=
  { desk.session with token := desk.tokens.lookup name }

theorem session_call {α : Type} (name : String) (work : Fetching τ α) (desk : Desk τ) :
    (desk.call name work).2.session = { (work (desk.foundBy name)).2 with token := none } := rfl

variable [Add τ] [Sub τ] [OfNat τ 0] [LT τ] [LE τ] [DecidableLT τ] [DecidableLE τ] [TimeText τ]
  (fetcher : Fetcher τ) (remote : Remote τ)

def visit (name : String) (request : Request) (desk : Desk τ) : Visit τ where
  request := request
  found := desk.foundBy name
  outcome := (fetcher.fetch remote request (desk.foundBy name)).1
  left := (fetcher.fetch remote request (desk.foundBy name)).2

def after : Act τ → Desk τ → Desk τ
  | .give name token, desk => desk.setToken name token
  | .cancel name, desk => desk.cancel name
  | .pass seconds, desk => desk.advance seconds
  | .fetch name request, desk => (desk.call name (fetcher.fetch remote request)).2

def visitOf? : Act τ → Desk τ → Option (Visit τ)
  | .fetch name request, desk => some (desk.visit fetcher remote name request)
  | _, _ => none

/-- The desk after a run. -/
def run : List (Act τ) → Desk τ → Desk τ
  | [], desk => desk
  | act :: acts, desk => run acts (desk.after fetcher remote act)

/-- The fetches of a run, in order. -/
def visits : List (Act τ) → Desk τ → List (Visit τ)
  | [], _ => []
  | act :: acts, desk =>
    (visitOf? fetcher remote act desk).toList ++ visits acts (desk.after fetcher remote act)

/-- Each fetch of a run is a fetch from the desk that the acts before it have left. -/
theorem exists_of_mem_visits {acts : List (Act τ)} {desk : Desk τ} {seen : Visit τ}
    (hseen : seen ∈ visits fetcher remote acts desk) :
    ∃ earlier name request later, acts = earlier ++ .fetch name request :: later ∧
      seen = (run fetcher remote earlier desk).visit fetcher remote name request := by
  induction acts generalizing desk with
  | nil => cases hseen
  | cons act acts ih =>
      rcases List.mem_append.mp hseen with hhere | hafter
      · cases act with
        | fetch name request => exact ⟨[], name, request, acts, rfl, List.mem_singleton.mp hhere⟩
        | give name token => cases hhere
        | cancel name => cases hhere
        | pass seconds => cases hhere
      · obtain ⟨earlier, name, request, later, rfl, rfl⟩ := ih hafter
        exact ⟨act :: earlier, name, request, later, rfl, rfl⟩

/-- What holds of a session whatever its clock shows and whoever has a token, and what a fetch
leaves as it is, holds after a run if it holds before. -/
theorem run_preserves {P : Session τ → Prop}
    (hreset : ∀ session clock token,
      P session → P { session with clock := clock, token := token })
    (hfetch : ∀ request session, P session → P (fetcher.fetch remote request session).2)
    (acts : List (Act τ)) {desk : Desk τ} (hdesk : P desk.session) :
    P (run fetcher remote acts desk).session := by
  induction acts generalizing desk with
  | nil => exact hdesk
  | cons act acts ih =>
      apply ih
      cases act with
      | give name token => exact hdesk
      | cancel name => exact hdesk
      | pass seconds => exact hreset _ _ _ hdesk
      | fetch name request =>
          have hfound : P (desk.foundBy name) := hreset _ desk.session.clock _ hdesk
          rw [after, session_call]
          exact hreset _ _ none (hfetch request _ hfound)

theorem isCounted_run (acts : List (Act τ)) {desk : Desk τ} (hdesk : desk.session.IsCounted) :
    (run fetcher remote acts desk).session.IsCounted :=
  run_preserves fetcher remote (fun _ _ _ hcounted => ⟨hcounted.requestCount, hcounted.lastSuccess⟩)
    (fun request session => fetcher.isCounted_fetch remote request session) acts hdesk

/-- The errors of a run are the fetches that failed because the provider was unavailable. -/
theorem errorCount_run (acts : List (Act τ)) (desk : Desk τ) :
    (run fetcher remote acts desk).session.errorCount =
      desk.session.errorCount +
        (visits fetcher remote acts desk).countP
          fun seen => Fetcher.isUnavailable seen.outcome := by
  induction acts generalizing desk with
  | nil => rfl
  | cons act acts ih =>
      unfold run visits
      rw [ih, List.countP_append, ← Nat.add_assoc]
      congr 1
      cases act with
      | give name token => rfl
      | cancel name => rfl
      | pass seconds => rfl
      | fetch name request =>
          simp only [visitOf?, Option.toList_some, List.countP_singleton, visit, after,
            session_call]
          exact fetcher.errorCount_fetch remote request (desk.foundBy name)

/-- How often a run tries each request, what its fetches come to and what it counts.  A fetch is
cancelled, which needs a token, or it goes on until the first reply that is not transient, at most
until its attempts are used up, and comes to what the last reply says.  The counters and the last
success tell which requests were issued, which fetches found the provider unavailable and when the
last request that brought something was complete. -/
theorem run_tries_and_counts (clock : τ) (acts : List (Act τ)) :
    (∀ seen ∈ visits fetcher remote acts (start clock),
      (seen.found.token ≠ none ∧ seen.left.IsCut ∧
          ∃ message, seen.outcome = .error (.cancelled message)) ∨
        ∃ count > 0,
          (∀ place, Reply.SettledFirstAt (remote.replyTo seen.found.requests seen.request) place →
            count = min (fetcher.retries + 1) (place + 1)) ∧
          ((∀ place, (remote.replyTo seen.found.requests seen.request place).IsTransient) →
            count = fetcher.retries + 1) ∧
          seen.left.requests = seen.found.requests ++ List.replicate count seen.request ∧
          seen.outcome = fetcher.verdict seen.request
            ((remote.replyTo seen.found.requests seen.request (count - 1)).payload
              seen.request.url)) ∧
      (run fetcher remote acts (start clock)).session.requestCount =
        (run fetcher remote acts (start clock)).session.askings.length ∧
      (run fetcher remote acts (start clock)).session.errorCount =
        (visits fetcher remote acts (start clock)).countP
          (fun seen => Fetcher.isUnavailable seen.outcome) ∧
      (run fetcher remote acts (start clock)).session.lastSuccess =
        (Asking.lastSuccess? (run fetcher remote acts (start clock)).session.askings).map
          Asking.completed := by
  have hstart : (start clock).session.IsCounted := ⟨rfl, rfl⟩
  have hcounted := isCounted_run fetcher remote acts hstart
  have herrors := errorCount_run fetcher remote acts (start clock)
  refine ⟨?_, hcounted.requestCount, herrors.trans (Nat.zero_add _), hcounted.lastSuccess⟩
  intro seen hseen
  obtain ⟨earlier, name, request, later, -, rfl⟩ := exists_of_mem_visits fetcher remote hseen
  generalize run fetcher remote earlier (start clock) = desk
  rcases fetcher.tried_fetch remote request (desk.foundBy name) with
    ⟨hcancelled, hcut⟩ | ⟨count, htried, hrequests, houtcome⟩
  · left
    refine ⟨?_, hcut, hcancelled⟩
    exact fun hnone => hcut.token_ne_none
      ((fetcher.token_fetch_eq_none_iff remote request (desk.foundBy name)).mpr hnone)
  · right
    exact ⟨count, htried.pos, fun place hfirst => htried.eq_min hfirst, htried.eq_limit,
      hrequests, houtcome⟩

end Desk

end AirQuality
