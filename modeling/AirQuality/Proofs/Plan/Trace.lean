import AirQuality.Proofs.Plan.Cancellation
import AirQuality.Proofs.Plan.Ensures

/-!
# Runs of plans

A run of a plan has the replies that its requests obtain one after another, each after the requests
before it.  So what a plan comes to and what it asks on the way belong together: a run is told by
the requests before it, the value, and the requests after it.  Carrying out a plan to a value is a
run of it, and the run of two plans in a row is a run of the first and then one of the second.
-/

namespace AirQuality

variable {α β : Type}

namespace Plan

variable (obtains : List Request → Request → Except Failure Json → List Request → Prop)

/-- A plan comes to a value.  With the requests so far, a request obtains a reply and leaves the
requests that there are then. -/
def ComesTo : Plan α → (earlier : List Request) → (value : α) → (later : List Request) → Prop
  | .done result, earlier, value, later => value = result ∧ later = earlier
  | .request wanted next, earlier, value, later =>
    ∃ reply between, obtains earlier wanted reply between ∧
      (next reply).ComesTo between value later
  | .note _ next, earlier, value, later => next.ComesTo earlier value later
  | .unfinished, _, _, _ => False

variable {obtains}

theorem comesTo_bind {plan : Plan α} {next : α → Plan β} {earlier later : List Request}
    {value : β} :
    (plan.bind next).ComesTo obtains earlier value later ↔
      ∃ result between, plan.ComesTo obtains earlier result between ∧
        (next result).ComesTo obtains between value later := by
  induction plan generalizing earlier with
  | done result =>
      constructor
      · exact fun hnext => ⟨result, earlier, ⟨rfl, rfl⟩, hnext⟩
      · rintro ⟨_, _, ⟨rfl, rfl⟩, hnext⟩
        exact hnext
  | request wanted rest ih =>
      constructor
      · rintro ⟨reply, middle, hobtains, hrest⟩
        obtain ⟨result, between, hplan, hnext⟩ := (ih reply).mp hrest
        exact ⟨result, between, ⟨reply, middle, hobtains, hplan⟩, hnext⟩
      · rintro ⟨result, between, ⟨reply, middle, hobtains, hplan⟩, hnext⟩
        exact ⟨reply, middle, hobtains, (ih reply).mpr ⟨result, between, hplan, hnext⟩⟩
  | note entry rest ih => exact ih
  | unfinished => exact ⟨False.elim, fun ⟨_, _, hplan, _⟩ => hplan⟩

/-- Where the replies are settled, a plan has one run after some requests. -/
theorem ComesTo.unique
    (hunique : ∀ {earlier request reply later other others},
      obtains earlier request reply later → obtains earlier request other others →
        other = reply ∧ others = later)
    {plan : Plan α} {earlier later others : List Request} {value other : α}
    (hcomes : plan.ComesTo obtains earlier value later)
    (hother : plan.ComesTo obtains earlier other others) : other = value ∧ others = later := by
  induction plan generalizing earlier with
  | done result =>
      obtain ⟨rfl, rfl⟩ := hcomes
      exact hother
  | request wanted next ih =>
      obtain ⟨reply, between, hobtains, hrest⟩ := hcomes
      obtain ⟨second, after, hagain, hothers⟩ := hother
      obtain ⟨rfl, rfl⟩ := hunique hobtains hagain
      exact ih second hrest hothers
  | note entry next ih => exact ih hcomes hother
  | unfinished => exact hcomes.elim

/-- Ways to fetch that obtain their reply after the requests of the session. -/
def IsTraced {τ : Type} (fetch : Request → Fetching τ Json)
    (obtains : List Request → Request → Except Failure Json → List Request → Prop) : Prop :=
  ∀ (request : Request) (session : Session τ),
    obtains session.requests request (fetch request session).1 (fetch request session).2.requests

/-- A plan that is carried out to a value has a run to it. -/
theorem comesTo_perform {τ : Type} {fetch : Request → Fetching τ Json}
    (htraced : IsTraced fetch obtains) {plan : Plan α} {value : α} {session : Session τ}
    (hvalue : (plan.perform fetch session).1 = .ok value) :
    plan.ComesTo obtains session.requests value (plan.perform fetch session).2.requests := by
  induction plan generalizing session with
  | done result => exact ⟨(Except.ok.inj hvalue).symm, rfl⟩
  | note entry next ih => exact ih hvalue
  | unfinished => cases hvalue
  | request wanted next ih => exact ⟨_, _, htraced wanted session, ih _ hvalue⟩

/-- A reply is obtained, or the request is cancelled. -/
def OrCancelled
    (obtains : List Request → Request → Except Failure Json → List Request → Prop)
    (earlier : List Request) (request : Request) (reply : Except Failure Json)
    (later : List Request) : Prop :=
  (∃ failure, reply = .error failure ∧ failure.isCancelled = true) ∨
    obtains earlier request reply later

/-- A run to a value has no cancelled request, if the plan raises cancellations again. -/
theorem Reraises.comesTo_of_orCancelled {plan : Plan (Except Failure α)} (hplan : plan.Reraises)
    {earlier later : List Request} {value : α}
    (hcomes : plan.ComesTo (OrCancelled obtains) earlier (.ok value) later) :
    plan.ComesTo obtains earlier (.ok value) later := by
  induction plan generalizing earlier with
  | done result => exact hcomes
  | note entry next ih => exact ih hplan hcomes
  | unfinished => exact hcomes
  | request wanted next ih =>
      obtain ⟨reply, between, ⟨failure, rfl, hcancelled⟩ | hobtains, hrest⟩ := hcomes
      · rw [hplan.1 failure hcancelled] at hrest
        cases hrest.1
      · exact ⟨reply, between, hobtains, ih reply (hplan.2 reply) hrest⟩

/-! ### Requests of plans -/

/-- Whatever replies a plan is given, it asks such requests only. -/
def AsksOnly (allowed : Request → Prop) : Plan α → Prop
  | .done _ => True
  | .request wanted next => allowed wanted ∧ ∀ reply, (next reply).AsksOnly allowed
  | .note _ next => next.AsksOnly allowed
  | .unfinished => True

variable {allowed : Request → Prop}

theorem AsksOnly.bind {plan : Plan α} {next : α → Plan β} (hplan : plan.AsksOnly allowed)
    (hnext : ∀ value, (next value).AsksOnly allowed) : (plan.bind next).AsksOnly allowed := by
  induction plan with
  | done value => exact hnext value
  | request wanted rest ih => exact ⟨hplan.1, fun reply => ih reply (hplan.2 reply)⟩
  | note entry rest ih => exact ih hplan
  | unfinished => trivial

/-- Requests that are followed by some that a condition allows. -/
def Extends (allowed : Request → Prop) (earlier later : List Request) : Prop :=
  ∃ asked, later = earlier ++ asked ∧ ∀ request ∈ asked, allowed request

theorem Extends.refl (earlier : List Request) : Extends allowed earlier earlier :=
  ⟨[], (List.append_nil earlier).symm, List.forall_mem_nil _⟩

theorem Extends.trans {earlier between later : List Request}
    (hfirst : Extends allowed earlier between) (hsecond : Extends allowed between later) :
    Extends allowed earlier later := by
  obtain ⟨first, rfl, hfirst⟩ := hfirst
  obtain ⟨second, rfl, hsecond⟩ := hsecond
  exact ⟨first ++ second, List.append_assoc .., List.forall_mem_append.mpr ⟨hfirst, hsecond⟩⟩

/-- A run asks what its plan may ask. -/
theorem ComesTo.extends
    (hobtains : ∀ {earlier request reply later}, obtains earlier request reply later →
      allowed request → Extends allowed earlier later)
    {plan : Plan α} {earlier later : List Request} {value : α}
    (hcomes : plan.ComesTo obtains earlier value later) (hasks : plan.AsksOnly allowed) :
    Extends allowed earlier later := by
  induction plan generalizing earlier with
  | done result =>
      obtain ⟨-, rfl⟩ := hcomes
      exact .refl later
  | request wanted next ih =>
      obtain ⟨reply, between, hreply, hrest⟩ := hcomes
      exact (hobtains hreply hasks.1).trans (ih reply hrest (hasks.2 reply))
  | note entry next ih => exact ih hcomes hasks
  | unfinished => exact hcomes.elim

end Plan

namespace Work

variable (obtains : List Request → Request → Except Failure Json → List Request → Prop)

/-- Work comes to an outcome, as its plan does. -/
def ComesTo (work : Work α) (earlier : List Request) (outcome : Except Failure α)
    (later : List Request) : Prop :=
  work.run.ComesTo obtains earlier outcome later

variable {obtains} {earlier later : List Request}

theorem comesTo_lift {made outcome : Except Failure α} :
    (lift made).ComesTo obtains earlier outcome later ↔ outcome = made ∧ later = earlier := .rfl

theorem comesTo_pure {value : α} {outcome : Except Failure α} :
    ComesTo obtains (pure value) earlier outcome later ↔
      outcome = .ok value ∧ later = earlier := .rfl

theorem comesTo_fetch {url : String} {parameters : Option (List (String × Json))}
    {outcome : Except Failure Json} :
    (fetch url parameters).ComesTo obtains earlier outcome later ↔
      obtains earlier ⟨url, parameters⟩ outcome later := by
  constructor
  · rintro ⟨reply, between, hobtains, rfl, rfl⟩
    exact hobtains
  · exact fun hobtains => ⟨outcome, later, hobtains, rfl, rfl⟩

/-- Two pieces of work come to an outcome one after the other; a failure of the first is that of
both. -/
theorem comesTo_bind {work : Work α} {next : α → Work β} {outcome : Except Failure β} :
    (work >>= next).ComesTo obtains earlier outcome later ↔
      ∃ result between, work.ComesTo obtains earlier result between ∧
        (lift result >>= next).ComesTo obtains between outcome later := by
  refine Plan.comesTo_bind.trans ?_
  refine exists_congr fun result => exists_congr fun between => and_congr_right fun _ => ?_
  cases result with
  | ok value => exact .rfl
  | error failure => exact .rfl

theorem comesTo_bind_ok {work : Work α} {next : α → Work β} {value : β} :
    (work >>= next).ComesTo obtains earlier (.ok value) later ↔
      ∃ result between, work.ComesTo obtains earlier (.ok result) between ∧
        (next result).ComesTo obtains between (.ok value) later := by
  refine comesTo_bind.trans ⟨?_, ?_⟩
  · rintro ⟨outcome, between, hwork, hnext⟩
    cases outcome with
    | ok result => exact ⟨result, between, hwork, hnext⟩
    | error failure => cases hnext.1
  · rintro ⟨result, between, hwork, hnext⟩
    exact ⟨.ok result, between, hwork, hnext⟩

/-- Work whose value is read at once comes to what its outcome is read as. -/
theorem comesTo_bind_lift {work : Work α} {read : α → Except Failure β}
    {outcome : Except Failure β} :
    (work >>= fun value => lift (read value)).ComesTo obtains earlier outcome later ↔
      ∃ result, work.ComesTo obtains earlier result later ∧ outcome = result >>= read := by
  refine comesTo_bind.trans ⟨?_, ?_⟩
  · rintro ⟨result, between, hwork, hread⟩
    cases result with
    | ok value =>
        obtain ⟨rfl, rfl⟩ := hread
        exact ⟨.ok value, hwork, rfl⟩
    | error failure =>
        obtain ⟨rfl, rfl⟩ := hread
        exact ⟨.error failure, hwork, rfl⟩
  · rintro ⟨result, hwork, rfl⟩
    refine ⟨result, later, hwork, ?_⟩
    cases result with
    | ok value => exact ⟨rfl, rfl⟩
    | error failure => exact ⟨rfl, rfl⟩

/-- Work within a guard comes to what the guard leaves of its outcome. -/
theorem comesTo_degrade {topic : Log.Topic} {name : String} {fallback : α} {work : Work α}
    {outcome : Except Failure α} :
    (degrade topic name fallback work).ComesTo obtains earlier outcome later ↔
      ∃ result, work.ComesTo obtains earlier result later ∧
        outcome = Outcome.degraded fallback result := by
  have hhandle : ∀ {result between}, (handle topic name fallback result).ComesTo obtains between
      outcome later ↔ outcome = Outcome.degraded fallback result ∧ later = between := by
    intro result between
    rcases handle_cases _ _ _ result with hhandle | ⟨entry, hhandle⟩
    · rw [hhandle]
      rfl
    · rw [hhandle]
      rfl
  refine Plan.comesTo_bind.trans ⟨?_, ?_⟩
  · rintro ⟨result, between, hwork, hafter⟩
    obtain ⟨houtcome, rfl⟩ := hhandle.mp hafter
    exact ⟨result, hwork, houtcome⟩
  · rintro ⟨result, hwork, houtcome⟩
    exact ⟨result, later, hwork, hhandle.mpr ⟨houtcome, rfl⟩⟩

/-- A list that comes out of a guard is what an outcome is read as; a failure lists nothing. -/
theorem exists_of_comesTo_degrade {topic : Log.Topic} {name : String} {work : Work α}
    {read : α → Except Failure (List β)} {items : List β}
    (hcomes : (degrade topic name [] (work >>= fun value => lift (read value))).ComesTo obtains
      earlier (.ok items) later) :
    ∃ result, work.ComesTo obtains earlier result later ∧
      items = Outcome.listed (result >>= read) := by
  obtain ⟨outcome, houtcome, hitems⟩ := comesTo_degrade.mp hcomes
  obtain ⟨result, hresult, rfl⟩ := comesTo_bind_lift.mp houtcome
  refine ⟨result, hresult, ?_⟩
  rw [Outcome.listed_eq]
  exact Outcome.eq_of_degraded_eq_ok hitems.symm

/-- Work that is carried out to a value has a run to it. -/
theorem comesTo_perform {τ : Type} {fetch : Request → Fetching τ Json}
    (htraced : Plan.IsTraced fetch obtains) {work : Work α} {value : α} {session : Session τ}
    (hvalue : (work.perform fetch session).1 = .ok value) :
    work.ComesTo obtains session.requests (.ok value)
      (work.perform fetch session).2.requests := by
  unfold perform at hvalue ⊢
  rcases hrun : work.run.perform fetch session with ⟨failure | outcome, after⟩
  · rw [hrun] at hvalue
    cases hvalue
  · rw [hrun] at hvalue
    obtain rfl : outcome = .ok value := hvalue
    have hplan := Plan.comesTo_perform htraced (congrArg Prod.fst hrun)
    rw [hrun] at hplan
    exact hplan

/-- Work that raises cancellations again has a run to its value without one. -/
theorem Reraises.comesTo_perform {τ : Type} {fetch : Request → Fetching τ Json}
    (htraced : Plan.IsTraced fetch (Plan.OrCancelled obtains)) {work : Work α}
    (hwork : work.Reraises) {value : α} {session : Session τ}
    (hvalue : (work.perform fetch session).1 = .ok value) :
    work.ComesTo obtains session.requests (.ok value)
      (work.perform fetch session).2.requests :=
  Plan.Reraises.comesTo_of_orCancelled hwork (Work.comesTo_perform htraced hvalue)

/-! ### Requests of work -/

/-- Whatever replies work is given, it asks such requests only. -/
def AsksOnly (allowed : Request → Prop) (work : Work α) : Prop := work.run.AsksOnly allowed

variable {allowed : Request → Prop}

theorem asksOnly_lift (outcome : Except Failure α) : (lift outcome).AsksOnly allowed := trivial

theorem asksOnly_pure (value : α) : AsksOnly allowed (pure value) := trivial

theorem asksOnly_note (level : Log.Level) (topic : Log.Topic) (text : String) :
    (note level topic text).AsksOnly allowed := trivial

theorem asksOnly_unfinished : (unfinished : Work α).AsksOnly allowed := trivial

theorem asksOnly_fetch {url : String} {parameters : Option (List (String × Json))}
    (hallowed : allowed ⟨url, parameters⟩) : (fetch url parameters).AsksOnly allowed :=
  ⟨hallowed, fun _ => trivial⟩

theorem AsksOnly.bind {work : Work α} {next : α → Work β} (hwork : work.AsksOnly allowed)
    (hnext : ∀ value, (next value).AsksOnly allowed) : (work >>= next).AsksOnly allowed := by
  apply Plan.AsksOnly.bind hwork
  intro outcome
  cases outcome with
  | ok value => exact hnext value
  | error failure => trivial

theorem asksOnly_mapM {next : β → Work α} (hnext : ∀ item, (next item).AsksOnly allowed)
    (items : List β) : (items.mapM next).AsksOnly allowed := by
  induction items with
  | nil => exact asksOnly_pure []
  | cons item rest ih =>
      rw [List.mapM_cons]
      exact (hnext item).bind fun value => ih.bind fun others => asksOnly_pure (value :: others)

end Work

/-- How often a request is tried is settled by the replies to it. -/
theorem Reply.Tried.unique {replies : Nat → Reply} {limit count other : Nat}
    (htried : Tried replies limit count) (hother : Tried replies limit other) : count = other := by
  have hle : ∀ {first second}, Tried replies limit first → Tried replies limit second →
      second ≤ first := by
    intro first second hfirst hsecond
    by_contra hmore
    have hpos := hfirst.pos
    have hlimit := hsecond.le_limit
    exact hfirst.settled (by omega) (hsecond.transient (first - 1) (by omega))
  exact Nat.le_antisymm (hle hother htried) (hle htried hother)

namespace Fetcher

variable {τ : Type}

/-- With the requests so far, a fetch that is not cancelled tries its request, obtains the reply
that the last attempt settles, and leaves the requests with all its attempts. -/
def Obtains (fetcher : Fetcher τ) (remote : Remote τ) (earlier : List Request) (request : Request)
    (reply : Except Failure Json) (later : List Request) : Prop :=
  ∃ count, Reply.Tried (remote.replyTo earlier request) (fetcher.retries + 1) count ∧
    later = earlier ++ List.replicate count request ∧
    reply = fetcher.verdict request
      ((remote.replyTo earlier request (count - 1)).payload request.url)

variable {fetcher : Fetcher τ} {remote : Remote τ} {earlier later : List Request}
  {request : Request} {reply : Except Failure Json}

theorem Obtains.ne_nil (hobtains : fetcher.Obtains remote earlier request reply later) :
    ∃ asked ≠ [], later = earlier ++ asked ∧ ∀ wanted ∈ asked, wanted = request := by
  obtain ⟨count, htried, rfl, -⟩ := hobtains
  have hpos : count ≠ 0 := Nat.ne_of_gt htried.pos
  exact ⟨List.replicate count request, by simpa using hpos, rfl,
    fun wanted hwanted => List.eq_of_mem_replicate hwanted⟩

theorem Obtains.unique {other : Except Failure Json} {others : List Request}
    (hobtains : fetcher.Obtains remote earlier request reply later)
    (hother : fetcher.Obtains remote earlier request other others) :
    other = reply ∧ others = later := by
  obtain ⟨count, htried, rfl, rfl⟩ := hobtains
  obtain ⟨tries, hagain, rfl, rfl⟩ := hother
  obtain rfl := htried.unique hagain
  exact ⟨rfl, rfl⟩

theorem Obtains.extends {allowed : Request → Prop}
    (hobtains : fetcher.Obtains remote earlier request reply later) (hallowed : allowed request) :
    Plan.Extends allowed earlier later := by
  obtain ⟨asked, -, rfl, hasked⟩ := hobtains.ne_nil
  exact ⟨asked, rfl, fun wanted hwanted => hasked wanted hwanted ▸ hallowed⟩

variable [Add τ] [Sub τ] [OfNat τ 0] [LT τ] [LE τ] [DecidableLT τ] [DecidableLE τ] [TimeText τ]

theorem isTraced_fetch (fetcher : Fetcher τ) (remote : Remote τ) :
    Plan.IsTraced (fetcher.fetch remote) (Plan.OrCancelled (fetcher.Obtains remote)) := by
  intro request session
  rcases fetcher.tried_fetch remote request session with
    ⟨⟨message, hcancelled⟩, -⟩ | ⟨count, htried, hrequests, houtcome⟩
  · exact .inl ⟨.cancelled message, hcancelled, rfl⟩
  · exact .inr ⟨count, htried, hrequests, houtcome⟩

end Fetcher

end AirQuality
