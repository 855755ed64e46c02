import AirQuality.Proofs.Plan.Trace

/-!
# What a plan fetches

A plan that is carried out fetches one request after another, each after what the others before it
came to.  What it fetches and what it comes to are known together, whatever the session: rules
relate them for each way to make a plan, up to the entries it writes into the log.  Where
cancellations are raised again, a cancelled request is the last one, and is what all comes to.
-/

namespace AirQuality

open Outcome

variable {τ α β : Type}

/-- A request that is fetched, with what this comes to. -/
structure Fetched where
  request : Request
  reply : Except Failure Json

namespace Plan

/-! ### Entries of the log -/

/-- A plan that is another one behind some entries of the log. -/
inductive Leads : Plan α → Plan α → Prop
  | here (plan : Plan α) : Leads plan plan
  | note {entry : Log.Entry} {plan other : Plan α} (hrest : Leads plan other) :
    Leads (.note entry plan) other

theorem Leads.trans {plan other last : Plan α} (hfirst : plan.Leads other)
    (hsecond : other.Leads last) : plan.Leads last := by
  induction hfirst with
  | here => exact hsecond
  | note _ ih => exact .note (ih hsecond)

theorem Leads.bind {plan other : Plan α} (hleads : plan.Leads other) (next : α → Plan β) :
    (plan.bind next).Leads (other.bind next) := by
  induction hleads with
  | here plan => exact .here _
  | note _ ih => exact .note ih

/-! ### Fetches and outcome -/

variable (fetch : Request → Fetching τ Json)

/-- What a plan fetches when it is carried out, in order. -/
def fetched : Plan α → Session τ → List Fetched
  | .done _, _ => []
  | .request wanted next, session =>
    match fetch wanted session with
    | (reply, session) => ⟨wanted, reply⟩ :: (next reply).fetched session
  | .note entry next, session =>
    next.fetched { session with entries := session.entries ++ [entry] }
  | .unfinished, _ => []

/-- In every session, what a plan fetches and what it comes to are related. -/
def Relates (R : List Fetched → Except Failure α → Prop) (plan : Plan α) : Prop :=
  ∀ session, R (plan.fetched fetch session) (plan.perform fetch session).1

variable {fetch} {plan other : Plan α}

theorem fetched_request (wanted : Request) (next : Except Failure Json → Plan α)
    (session : Session τ) :
    (request wanted next).fetched fetch session =
      ⟨wanted, (fetch wanted session).1⟩ ::
        (next (fetch wanted session).1).fetched fetch (fetch wanted session).2 := rfl

/-! ### Rules -/

variable {R : List Fetched → Except Failure α → Prop}

theorem relates_done {value : α} (hvalue : R [] (.ok value)) : (done value).Relates fetch R :=
  fun _ => hvalue

theorem relates_unfinished (hunfinished : R [] (.error .unfinished)) :
    (unfinished : Plan α).Relates fetch R := fun _ => hunfinished

theorem Relates.of_leads (hother : other.Relates fetch R) (hleads : plan.Leads other) :
    plan.Relates fetch R := by
  induction hleads with
  | here => exact hother
  | note _ ih => exact fun session => ih hother _

theorem relates_request {wanted : Request} {next : Except Failure Json → Plan α}
    (hnext : ∀ reply, (next reply).Relates fetch fun rest outcome =>
      R (⟨wanted, reply⟩ :: rest) outcome) : (request wanted next).Relates fetch R := by
  intro session
  rw [perform_request, fetched_request]
  exact hnext _ _

/-- A plan whose value is only put into another form fetches the same. -/
theorem Relates.map (hplan : plan.Relates fetch R) (change : α → β) (next : α → Plan β)
    (hnext : ∀ value, (next value).Leads (.done (change value))) :
    (plan.bind next).Relates fetch fun fetched outcome =>
      ∃ result, R fetched result ∧ outcome = result.map change := by
  have hdone : ∀ value, (next value).Relates fetch fun fetched outcome =>
      fetched = [] ∧ outcome = .ok (change value) :=
    fun value => (relates_done ⟨rfl, rfl⟩).of_leads (hnext value)
  intro session
  have hsame : (plan.bind next).fetched fetch session = plan.fetched fetch session ∧
      ((plan.bind next).perform fetch session).1 = (plan.perform fetch session).1.map change := by
    clear hplan
    induction plan generalizing session with
    | done value => exact hdone value session
    | unfinished => exact ⟨rfl, rfl⟩
    | note entry rest ih => exact ih _
    | request wanted rest ih =>
        obtain ⟨hfetched, houtcome⟩ := ih (fetch wanted session).1 (fetch wanted session).2
        unfold Plan.bind
        rw [perform_request, perform_request, fetched_request, fetched_request, hfetched]
        exact ⟨rfl, houtcome⟩
  rw [hsame.1, hsame.2]
  exact ⟨_, hplan session, rfl⟩

/-- A guard writes an entry perhaps, and does nothing else but settle what the outcome counts as. -/
theorem leads_handle (topic : Log.Topic) (name : String) (fallback : α)
    (outcome : Except Failure α) :
    (Work.handle topic name fallback outcome).Leads (.done (degraded fallback outcome)) := by
  rcases Work.handle_cases _ _ _ outcome with hhandle | ⟨entry, hhandle⟩
  · exact hhandle ▸ .here _
  · exact hhandle ▸ .note (.here _)

/-- Work within a guard fetches the same, and comes to what the guard leaves of its outcome. -/
theorem Relates.degrade {work : Work α}
    {R : List Fetched → Except Failure (Except Failure α) → Prop}
    (hwork : work.run.Relates fetch R) (topic : Log.Topic) (name : String) (fallback : α) :
    (Work.degrade topic name fallback work).run.Relates fetch fun fetched outcome =>
      ∃ result, R fetched result ∧ outcome = result.map (degraded fallback) :=
  hwork.map (degraded fallback) _ (leads_handle topic name fallback)

/-! ### Single fetches -/

/-- Each fetch comes to what its request comes to in some session. -/
theorem exists_session_of_mem_fetched {plan : Plan α} {session : Session τ} {item : Fetched}
    (hitem : item ∈ plan.fetched fetch session) :
    ∃ found, item.reply = (fetch item.request found).1 := by
  induction plan generalizing session with
  | done value => cases hitem
  | unfinished => cases hitem
  | note entry rest ih => exact ih hitem
  | request wanted rest ih =>
      rw [fetched_request] at hitem
      cases List.mem_cons.mp hitem with
      | inl hfirst =>
          subst hfirst
          exact ⟨session, rfl⟩
      | inr hrest => exact ih _ hrest

/-- A plan that raises cancellations again fetches nothing after a request that is cancelled, and
comes to the cancellation. -/
theorem Reraises.ends_of_cancelled {plan : Plan (Except Failure α)} (hplan : plan.Reraises)
    {session : Session τ} {number : Nat} {item : Fetched} {failure : Failure}
    (hitem : (plan.fetched fetch session)[number]? = some item)
    (hreply : item.reply = .error failure) (hcancelled : failure.isCancelled = true) :
    (plan.perform fetch session).1 = .ok (.error failure) ∧
      (plan.fetched fetch session).length = number + 1 := by
  induction plan generalizing session number with
  | done outcome => cases hitem
  | unfinished => cases hitem
  | note entry rest ih => exact ih hplan hitem
  | request wanted rest ih =>
      rw [fetched_request] at hitem ⊢
      cases number with
      | zero =>
          obtain rfl := Option.some.inj hitem
          have hfirst : (fetch wanted session).1 = .error failure := hreply
          rw [hplan.perform_of_cancelled hfirst hcancelled, hfirst, hplan.1 failure hcancelled]
          exact ⟨rfl, rfl⟩
      | succ number =>
          obtain ⟨houtcome, hlength⟩ := ih _ (hplan.2 _) hitem
          exact ⟨houtcome, congrArg (· + 1) hlength⟩

end Plan

/-! ### Work -/

theorem Work.lift_bind {γ : Type} (outcome : Except Failure α) (next : α → Except Failure β)
    (after : β → Work γ) :
    (lift (outcome >>= next) >>= after) =
      lift outcome >>= fun value => lift (next value) >>= after := by
  cases outcome with
  | ok value => rfl
  | error failure => rfl

theorem Work.leads_lift_bind {outcome : Except Failure α} {next after : α → Work β}
    (hnext : ∀ value, (next value).run.Leads (after value).run) :
    (lift outcome >>= next).run.Leads (lift outcome >>= after).run := by
  cases outcome with
  | ok value => exact hnext value
  | error failure => exact .here _

theorem Work.leads_bind {work other : Work α} (hleads : work.run.Leads other.run)
    (next : α → Work β) : (work >>= next).run.Leads (other >>= next).run := hleads.bind _

theorem Work.perform_request (fetch : Request → Fetching τ Json) (wanted : Request)
    (next : Except Failure Json → Plan (Except Failure α)) (session : Session τ) :
    Work.perform fetch (ExceptT.mk (.request wanted next)) session =
      Work.perform fetch (ExceptT.mk (next (fetch wanted session).1)) (fetch wanted session).2 :=
  rfl

/-- Work that is carried out comes to what its plan comes to, whose failures are those of work. -/
theorem Work.perform_fst (fetch : Request → Fetching τ Json) (work : Work α)
    (session : Session τ) :
    (work.perform fetch session).1 = (work.run.perform fetch session).1 >>= id := by
  unfold Work.perform
  rcases work.run.perform fetch session with ⟨failure | outcome, after⟩
  · rfl
  · rfl

theorem Work.perform_snd (fetch : Request → Fetching τ Json) (work : Work α)
    (session : Session τ) :
    (work.perform fetch session).2 = (work.run.perform fetch session).2 := by
  unfold Work.perform
  rcases work.run.perform fetch session with ⟨failure | outcome, after⟩
  · rfl
  · rfl

theorem Work.Reraises.ends_of_cancelled {fetch : Request → Fetching τ Json} {work : Work α}
    (hwork : work.Reraises) {session : Session τ} {number : Nat} {item : Fetched}
    {failure : Failure} (hitem : (work.run.fetched fetch session)[number]? = some item)
    (hreply : item.reply = .error failure) (hcancelled : failure.isCancelled = true) :
    (work.perform fetch session).1 = .error failure ∧
      (work.run.fetched fetch session).length = number + 1 := by
  obtain ⟨houtcome, hlength⟩ := Plan.Reraises.ends_of_cancelled hwork hitem hreply hcancelled
  refine ⟨?_, hlength⟩
  rw [perform_fst, houtcome]
  rfl

/-! ### Requests to a provider -/

namespace Fetcher

/-- Fetches that are not cancelled, one after another: each obtains its reply after the requests of
those before it. -/
def ObtainsInTurn (fetcher : Fetcher τ) (remote : Remote τ) :
    List Fetched → (earlier later : List Request) → Prop
  | [], earlier, later => later = earlier
  | item :: rest, earlier, later =>
    ∃ between, fetcher.Obtains remote earlier item.request item.reply between ∧
      ObtainsInTurn fetcher remote rest between later

variable [Add τ] [Sub τ] [OfNat τ 0] [LT τ] [LE τ] [DecidableLT τ] [DecidableLE τ] [TimeText τ]

/-- The requests of a session are those of what is fetched in it. -/
theorem obtainsInTurn_perform (fetcher : Fetcher τ) (remote : Remote τ) (plan : Plan α)
    (session : Session τ)
    (huncancelled : ∀ item ∈ plan.fetched (fetcher.fetch remote) session,
      Uncancelled item.reply) :
    fetcher.ObtainsInTurn remote (plan.fetched (fetcher.fetch remote) session) session.requests
      (plan.perform (fetcher.fetch remote) session).2.requests := by
  induction plan generalizing session with
  | done value => exact rfl
  | unfinished => exact rfl
  | note entry rest ih => exact ih _ huncancelled
  | request wanted rest ih =>
      rw [Plan.fetched_request] at huncancelled ⊢
      obtain ⟨hfirst, hrest⟩ := List.forall_mem_cons.mp huncancelled
      rcases fetcher.isTraced_fetch remote wanted session with
        ⟨failure, hreply, hcancelled⟩ | hobtains
      · rw [hfirst failure hreply] at hcancelled
        cases hcancelled
      · exact ⟨_, hobtains, ih _ _ hrest⟩

/-- A fetch that brings a payload brings one of the provider's. -/
theorem brings_of_mem_fetched {fetcher : Fetcher τ} {remote : Remote τ} {plan : Plan α}
    {session : Session τ} {item : Fetched} {payload : Json}
    (hitem : item ∈ plan.fetched (fetcher.fetch remote) session)
    (hreply : item.reply = .ok payload) : remote.Brings item.request payload := by
  obtain ⟨found, hfound⟩ := Plan.exists_session_of_mem_fetched hitem
  rw [hreply] at hfound
  rcases fetcher.isFaithful_fetch remote item.request found with
    ⟨⟨message, hcancelled⟩, -⟩ | ⟨hmay, -⟩
  · rw [hcancelled] at hfound
    cases hfound
  · rw [← hfound] at hmay
    exact brings_of_mayReply hmay

end Fetcher

end AirQuality
