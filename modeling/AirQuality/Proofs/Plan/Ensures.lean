import AirQuality.Proofs.Fetch.Retry
import AirQuality.Proofs.Plan

/-!
# What a plan ensures

A provider may reply to a request in more than one way, and any request may be cancelled.  A plan
ensures a postcondition if this holds of what the plan comes to, however the provider chooses its
replies and whenever it is cancelled.  There is a rule for each way to make a plan, and carrying out
a plan keeps what it ensures: it comes to such a value, or it has asked more often than it may.
-/

namespace AirQuality

variable {α β : Type}

namespace Plan

variable (replies : Request → Except Failure Json → Prop)

/-- Whatever replies a plan is given, it comes to a value of which the postcondition holds.  A
budget, which each request lowers by one, has to be used up before the plan may be unfinished.  A
cancelled request need not have been made, so it does not count. -/
def Ensures : Plan α → (budget : Nat) → (post : α → Prop) → Prop
  | .done value, _, post => post value
  | .request wanted next, budget, post =>
    (∀ failure, failure.isCancelled = true → (next (.error failure)).Ensures budget post) ∧
      ∀ reply, replies wanted reply → (next reply).Ensures (budget - 1) post
  | .note _ next, budget, post => next.Ensures budget post
  | .unfinished, budget, _ => budget = 0

variable {replies}

/-- What follows a plan has at most its budget, for the requests of the plan count. -/
theorem Ensures.bind {plan : Plan α} {next : α → Plan β} {budget : Nat} {middle : α → Prop}
    {post : β → Prop} (hplan : plan.Ensures replies budget middle)
    (hnext : ∀ left value, left ≤ budget → middle value → (next value).Ensures replies left post) :
    (plan.bind next).Ensures replies budget post := by
  induction plan generalizing budget with
  | done value => exact hnext budget value (Nat.le_refl budget) hplan
  | request wanted rest ih =>
      refine ⟨fun failure hfailure => ih _ (hplan.1 failure hfailure) hnext,
        fun reply hreply => ?_⟩
      refine ih reply (hplan.2 reply hreply) fun left value hleft => hnext left value ?_
      exact Nat.le_trans hleft (Nat.sub_le budget 1)
  | note entry rest ih => exact ih hplan hnext
  | unfinished => exact hplan

/-- Ways to fetch that are cancelled or bring one of the possible replies, after asking. -/
def IsFaithful {τ : Type} (fetch : Request → Fetching τ Json)
    (replies : Request → Except Failure Json → Prop) : Prop :=
  ∀ (request : Request) (session : Session τ),
    (∃ message, (fetch request session).1 = .error (.cancelled message)) ∧
        session.requests.length ≤ (fetch request session).2.requests.length ∨
      replies request (fetch request session).1 ∧
        session.requests.length < (fetch request session).2.requests.length

variable {τ : Type} {fetch : Request → Fetching τ Json}

/-- A plan that is carried out comes to a value of which its postcondition holds, unless it has used
up its budget. -/
theorem Ensures.perform (hfaithful : IsFaithful fetch replies) {plan : Plan α} {budget : Nat}
    {post : α → Prop} (hplan : plan.Ensures replies budget post) (session : Session τ) :
    (∃ value, (plan.perform fetch session).1 = .ok value ∧ post value) ∨
      (plan.perform fetch session).1 = .error .unfinished ∧
        session.requests.length + budget ≤ (plan.perform fetch session).2.requests.length := by
  induction plan generalizing budget session with
  | done value => exact .inl ⟨value, rfl, hplan⟩
  | note entry next ih => exact ih hplan { session with entries := session.entries ++ [entry] }
  | unfinished =>
      obtain rfl : budget = 0 := hplan
      exact .inr ⟨rfl, Nat.le_refl _⟩
  | request wanted next ih =>
      rw [perform_request]
      rcases hfaithful wanted session with ⟨⟨message, hcancelled⟩, hkept⟩ | ⟨hreply, hasked⟩
      · rw [hcancelled]
        have hnext := ih _ (hplan.1 (.cancelled message) rfl) (fetch wanted session).2
        exact hnext.imp_right fun ⟨hunfinished, hcount⟩ => ⟨hunfinished, by omega⟩
      · have hnext := ih _ (hplan.2 _ hreply) (fetch wanted session).2
        exact hnext.imp_right fun ⟨hunfinished, hcount⟩ => ⟨hunfinished, by omega⟩

end Plan

/-- An outcome of which something holds, be it a value or a failure. -/
def Outcome.Meets (holds : α → Prop) (escapes : Failure → Prop) : Except Failure α → Prop
  | .ok value => holds value
  | .error failure => escapes failure

theorem Outcome.Meets.of_error {holds : α → Prop} {escapes : Failure → Prop}
    {outcome : Except Failure α} {failure : Failure} (houtcome : Meets holds escapes outcome)
    (hfailed : outcome = .error failure) : escapes failure := by
  rw [hfailed] at houtcome
  exact houtcome

theorem Outcome.Meets.mono {holds : α → Prop} {escapes other : Failure → Prop}
    {outcome : Except Failure α} (houtcome : Meets holds escapes outcome)
    (hother : ∀ failure, escapes failure → other failure) : Meets holds other outcome := by
  cases outcome with
  | ok value => exact houtcome
  | error failure => exact hother failure houtcome

theorem Outcome.Meets.bind {holds : α → Prop} {after : β → Prop} {escapes : Failure → Prop}
    {outcome : Except Failure α} {next : α → Except Failure β}
    (houtcome : Meets holds escapes outcome)
    (hnext : ∀ value, holds value → Meets after escapes (next value)) :
    Meets after escapes (outcome >>= next) := by
  cases outcome with
  | ok value => exact hnext value houtcome
  | error failure => exact houtcome

namespace Work

variable (replies : Request → Except Failure Json → Prop)

/-- Whatever replies work is given, it comes to a value of which something holds, to a cancellation,
or to a failure that may escape it. -/
def Ensures (work : Work α) (budget : Nat) (holds : α → Prop) (escapes : Failure → Prop) : Prop :=
  work.run.Ensures replies budget
    (Outcome.Meets holds fun failure => failure.isCancelled = true ∨ escapes failure)

variable {replies} {budget : Nat} {holds : α → Prop} {escapes : Failure → Prop}

theorem ensures_pure {value : α} (hvalue : holds value) :
    Ensures replies (pure value) budget holds escapes := hvalue

theorem ensures_lift {outcome : Except Failure α} (houtcome : Outcome.Meets holds escapes outcome) :
    Ensures replies (lift outcome) budget holds escapes :=
  houtcome.mono fun _ => .inr

theorem ensures_unfinished : Ensures replies (unfinished : Work α) 0 holds escapes := rfl

theorem Ensures.bind {work : Work α} {next : α → Work β} {after : β → Prop}
    (hwork : Ensures replies work budget holds escapes)
    (hnext : ∀ left value, left ≤ budget → holds value →
      Ensures replies (next value) left after escapes) :
    Ensures replies (work >>= next) budget after escapes := by
  unfold Ensures at hwork ⊢
  rw [ExceptT.run_bind]
  apply Plan.Ensures.bind hwork
  intro left outcome hleft hmeets
  cases outcome with
  | ok value => exact hnext left value hleft hmeets
  | error failure => exact hmeets

theorem ensures_lift_bind {outcome : Except Failure β} {next : β → Work α}
    (hok : ∀ value, outcome = .ok value → Ensures replies (next value) budget holds escapes)
    (herror : ∀ failure, outcome = .error failure → escapes failure) :
    Ensures replies (lift outcome >>= next) budget holds escapes := by
  cases outcome with
  | ok value => exact hok value rfl
  | error failure => exact .inr (herror failure rfl)

theorem ensures_note_bind {level : Log.Level} {topic : Log.Topic} {text : String}
    {next : Unit → Work α} (hnext : Ensures replies (next ()) budget holds escapes) :
    Ensures replies (note level topic text >>= next) budget holds escapes := hnext

theorem ensures_fetch {url : String} {parameters : Option (List (String × Json))}
    {holds : Json → Prop}
    (hok : ∀ payload, replies ⟨url, parameters⟩ (.ok payload) → holds payload)
    (herror : ∀ failure, replies ⟨url, parameters⟩ (.error failure) → escapes failure) :
    Ensures replies (fetch url parameters) budget holds escapes := by
  refine ⟨fun failure hcancelled => .inl hcancelled, fun reply hreply => ?_⟩
  cases reply with
  | ok payload => exact hok payload hreply
  | error failure => exact .inr (herror failure hreply)

/-- Work that asks first goes on with one request less. -/
theorem ensures_fetch_bind {url : String} {parameters : Option (List (String × Json))}
    {next : Json → Work α}
    (hok : ∀ payload, replies ⟨url, parameters⟩ (.ok payload) →
      Ensures replies (next payload) (budget - 1) holds escapes)
    (herror : ∀ failure, replies ⟨url, parameters⟩ (.error failure) → escapes failure) :
    Ensures replies (fetch url parameters >>= next) budget holds escapes := by
  refine ⟨fun failure hcancelled => .inl hcancelled, fun reply hreply => ?_⟩
  cases reply with
  | ok payload => exact hok payload hreply
  | error failure => exact .inr (herror failure hreply)

/-- From work within a guard nothing escapes but a cancellation. -/
theorem Ensures.degrade {work : Work α} {topic : Log.Topic} {name : String} {fallback : α}
    (hwork : Ensures replies work budget holds fun _ => True) (hfallback : holds fallback) :
    Ensures replies (degrade topic name fallback work) budget holds escapes := by
  apply Plan.Ensures.bind hwork
  intro left outcome hleft hmeets
  cases outcome with
  | ok value => exact hmeets
  | error failure =>
      cases hcancelled : failure.isCancelled with
      | true =>
          rw [handle_of_cancelled hcancelled]
          exact .inl hcancelled
      | false =>
          rw [handle_of_uncancelled hcancelled]
          exact hfallback

theorem ensures_mapM {next : β → Work α} {items : List β}
    (hnext : ∀ left item, left ≤ budget → Ensures replies (next item) left holds escapes) :
    Ensures replies (items.mapM next) budget (fun values => ∀ value ∈ values, holds value)
      escapes := by
  induction items generalizing budget with
  | nil => exact ensures_pure (List.forall_mem_nil _)
  | cons item rest ih =>
      rw [List.mapM_cons]
      refine (hnext budget item (Nat.le_refl budget)).bind fun left value hleft hvalue => ?_
      refine (ih fun later other hlater => hnext later other (Nat.le_trans hlater hleft)).bind ?_
      exact fun _ values _ hvalues => ensures_pure (List.forall_mem_cons.mpr ⟨hvalue, hvalues⟩)

/-- Work that is carried out comes to what it ensures, unless it is cancelled or has used up its
budget. -/
theorem Ensures.perform {τ : Type} {fetch : Request → Fetching τ Json}
    (hfaithful : Plan.IsFaithful fetch replies) {work : Work α}
    (hwork : Ensures replies work budget holds escapes) (session : Session τ) :
    Outcome.Meets holds (fun failure => failure.isCancelled = true ∨ escapes failure)
        (work.perform fetch session).1 ∨
      (work.perform fetch session).1 = .error .unfinished ∧
        session.requests.length + budget ≤ (work.perform fetch session).2.requests.length := by
  have hplan := Plan.Ensures.perform hfaithful hwork session
  unfold Work.perform
  generalize work.run.perform fetch session = performed at hplan
  obtain ⟨outcome, later⟩ := performed
  rcases hplan with ⟨value, hvalue, hmeets⟩ | ⟨hunfinished, hcount⟩
  · obtain rfl : outcome = .ok value := hvalue
    exact .inl hmeets
  · obtain rfl : outcome = .error .unfinished := hunfinished
    exact .inr ⟨rfl, hcount⟩

end Work

/-! ### Replies of a provider -/

variable {τ : Type}

/-- A provider may bring a payload for a request, whatever was asked before. -/
def Remote.Brings (remote : Remote τ) (request : Request) (payload : Json) : Prop :=
  ∃ earlier, (remote earlier request).reply.payload request.url = .ok payload

namespace Fetcher

/-- What a fetch may come to unless it is cancelled. -/
def mayReply (fetcher : Fetcher τ) (remote : Remote τ) (request : Request)
    (reply : Except Failure Json) : Prop :=
  ∃ earlier, reply =
    fetcher.verdict request ((remote earlier request).reply.payload request.url)

theorem brings_of_mayReply {fetcher : Fetcher τ} {remote : Remote τ} {request : Request}
    {payload : Json} (hreply : fetcher.mayReply remote request (.ok payload)) :
    remote.Brings request payload := by
  obtain ⟨earlier, hverdict⟩ := hreply
  refine ⟨earlier, ?_⟩
  rcases hlast : (remote earlier request).reply.payload request.url with fault | brought
  · rw [hlast] at hverdict
    cases fault with
    | refused label message isTransient => cases hverdict
    | other failure => cases hverdict
  · rw [hlast] at hverdict
    cases hverdict
    rfl

variable [Add τ] [Sub τ] [OfNat τ 0] [LT τ] [LE τ] [DecidableLT τ] [DecidableLE τ] [TimeText τ]

theorem isFaithful_fetch (fetcher : Fetcher τ) (remote : Remote τ) :
    Plan.IsFaithful (fetcher.fetch remote) (fetcher.mayReply remote) := by
  intro request session
  rcases fetcher.tried_fetch remote request session with
    ⟨hcancelled, -⟩ | ⟨count, htried, hrequests, houtcome⟩
  · refine .inl ⟨hcancelled, ?_⟩
    have hkept := (fetcher.askings_kept_fetch remote request session).length_le
    simpa only [Session.requests_eq, List.length_map] using hkept
  · refine .inr ⟨⟨_, houtcome⟩, ?_⟩
    rw [hrequests, List.length_append, List.length_replicate]
    exact Nat.lt_add_of_pos_right htried.pos

end Fetcher

end AirQuality
