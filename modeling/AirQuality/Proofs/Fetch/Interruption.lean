import AirQuality.Proofs.Cancellation
import AirQuality.Proofs.Fetch.ExactTime
import AirQuality.Proofs.Plan.Fetched

/-!
# Fetches with a token and without

A token can end a fetch, but cannot bend it.  Compare a call that carries a token with the same
call without one, on the same replies.  The two go the same way up to the moment at which the
first is cancelled, if that ever comes: so it has asked nothing that the second does not ask, and
unless it is cancelled it comes to the same outcome.  The same holds of the listings of a source
that are carried out with such fetches, because each of them raises a cancellation again.
-/

namespace AirQuality

variable {τ α : Type} [AddCommGroup τ] [LinearOrder τ] [TimeText τ]

/-- What work with a token comes to, beside what it comes to without: it is cancelled after requests
that are issued without the token too, or all is the same. -/
def Fetching.Agrees (tokened bare : Except Failure α × Session τ) : Prop :=
  (∃ message, tokened.1 = .error (.cancelled message)) ∧ tokened.2.askings <+: bare.2.askings ∨
    tokened.1 = bare.1 ∧ tokened.2.withoutToken = bare.2

/-- Work whose token may cancel it and does nothing else to it. -/
def Fetching.IsUnswayed (work : Fetching τ α) : Prop :=
  ∀ session : Session τ, Agrees (work session) (work session.withoutToken)

namespace Fetcher

variable {fetcher : Fetcher τ} {remote : Remote τ} {request : Request}

/-! ### Attempts -/

theorem approach_withoutToken (fetcher : Fetcher τ) (session : Session τ) :
    fetcher.approach session.withoutToken = (.ok (), fetcher.slot session.withoutToken) := by
  rcases happroach : fetcher.approach session.withoutToken with ⟨fault | done, ready⟩
  · obtain ⟨-, hcut, rests, hhalted⟩ := halts_of_approach happroach
    exact absurd (hhalted.token.mpr rfl) hcut.token_ne_none
  · rw [(eq_slot_of_approach happroach).1]

theorem pause_withoutToken (fetcher : Fetcher τ) (seconds : τ) (session : Session τ) :
    fetcher.pause seconds session.withoutToken =
      (.ok (), session.withoutToken.waited seconds) := by
  rcases hpause : fetcher.pause seconds session.withoutToken with ⟨fault | done, rested⟩
  · obtain ⟨-, hcut, rests, hhalted⟩ := halts_of_pause hpause
    exact absurd (hhalted.token.mpr rfl) hcut.token_ne_none
  · rw [(eq_waited_of_pause hpause).1]

omit [LinearOrder τ] [TimeText τ] in
theorem withoutToken_asked (exchange : Exchange τ) (session : Session τ) :
    session.withoutToken.asked request exchange =
      (session.asked request exchange).withoutToken := by
  unfold Session.asked
  cases exchange.cancels with
  | true => rfl
  | false => rfl

omit [LinearOrder τ] [TimeText τ] in
theorem ask_withoutToken (fetcher : Fetcher τ) (remote : Remote τ) (request : Request)
    (session : Session τ) :
    fetcher.ask remote request session.withoutToken =
      ((fetcher.ask remote request session).1,
        (fetcher.ask remote request session).2.withoutToken) := by
  have hrequests : session.withoutToken.requests = session.requests := rfl
  have hnote : ∀ level text,
      session.withoutToken.note level text = (session.note level text).withoutToken :=
    fun _ _ => rfl
  unfold ask
  simp only [hrequests, hnote, withoutToken_asked]
  generalize remote session.requests request = exchange
  cases exchange.reply.payload request.url with
  | ok payload =>
      simp only
      split
      · rfl
      · rfl
  | error fault =>
      cases fault with
      | refused label message isTransient => rfl
      | other failure => rfl

/-- Without a token, a request that is refused for the time being is tried again after the whole
delay. -/
theorem attempts_succ_withoutToken {found refused : Session τ} {label message : String}
    (hattempt : fetcher.attempt remote request found.withoutToken =
      (.error (.refused label message true), refused.withoutToken)) (more : Nat) :
    fetcher.attempts remote request (more + 1) found.withoutToken =
      fetcher.attempts remote request more
        ((refused.note .warning (fetcher.retryText label message)).withoutToken.waited
          fetcher.retryDelay) := by
  have hnote : refused.withoutToken.note .warning (fetcher.retryText label message) =
      (refused.note .warning (fetcher.retryText label message)).withoutToken := rfl
  rw [attempts_succ_of_refused hattempt, hnote, pause_withoutToken]

variable [IsOrderedAddMonoid τ]

/-- An attempt that is not cancelled is the same with a token and without. -/
theorem attempt_withoutToken {found asked : Session τ} {outcome : Except AttemptFault Json}
    (happroach : fetcher.approach found = (.ok (), fetcher.slot found))
    (hask : fetcher.ask remote request (fetcher.slot found) = (outcome, asked)) :
    fetcher.attempt remote request found.withoutToken = (outcome, asked.withoutToken) := by
  have hslot := withoutToken_slot (eq_slot_of_approach happroach).2
  rw [attempt_of_approach (fetcher.approach_withoutToken found), ← hslot, ask_withoutToken, hask]

/-- Attempts with a token and without go the same way until the token is cancelled. -/
theorem Attempts.unswayed {more : Nat} {found left : Session τ}
    {outcome : Except AttemptFault Json} (hdelay : 0 ≤ fetcher.retryDelay)
    (hattempts : Attempts fetcher remote request more found outcome left) :
    (∃ message, outcome = .error (.other (.cancelled message))) ∧
        left.askings <+:
          (fetcher.attempts remote request more found.withoutToken).2.askings ∨
      fetcher.attempts remote request more found.withoutToken = (outcome, left.withoutToken) := by
  induction hattempts with
  | @halted more found cut fault happroach =>
      obtain ⟨⟨message, rfl⟩, -, rests, hhalted⟩ := halts_of_approach happroach
      refine .inl ⟨⟨message, rfl⟩, ?_⟩
      rw [hhalted.askings_eq]
      exact (fetcher.attempts_attempts remote request more found.withoutToken).askings_kept
  | settled happroach hask hsettled =>
      have hattempt := attempt_withoutToken happroach hask
      exact .inr (attempts_of_settled hattempt hsettled)
  | @haltedAgain more found refused cut label message fault happroach hask hpause =>
      obtain ⟨⟨text, rfl⟩, -, rests, hhalted⟩ := halts_of_pause hpause
      refine .inl ⟨⟨text, rfl⟩, ?_⟩
      rw [attempts_succ_withoutToken (attempt_withoutToken happroach hask), hhalted.askings_eq]
      have hmore := (fetcher.attempts_attempts remote request more
        ((refused.note .warning (fetcher.retryText label message)).withoutToken.waited
          fetcher.retryDelay)).askings_kept
      rw [(Session.waits_waited _ _).askings_eq] at hmore
      exact hmore
  | again happroach hask hpause hmore ih =>
      obtain ⟨rfl, hlook⟩ := eq_waited_of_pause hpause
      rw [attempts_succ_withoutToken (attempt_withoutToken happroach hask),
        ← Session.withoutToken_waited hlook hdelay]
      exact ih

/-! ### Fetches and plans -/

omit [AddCommGroup τ] [LinearOrder τ] [TimeText τ] [IsOrderedAddMonoid τ] in
theorem withoutToken_concluded (last : Except AttemptFault Json) (session : Session τ) :
    (concluded last session).withoutToken = concluded last session.withoutToken := by
  unfold concluded
  split
  · rfl
  · rfl

theorem isUnswayed_fetch (hdelay : 0 ≤ fetcher.retryDelay) :
    Fetching.IsUnswayed (fetcher.fetch remote request) := by
  intro session
  have hattempts := fetcher.attempts_attempts remote request fetcher.retries session
  unfold Fetching.Agrees Session.askings
  simp only [fetch_eq, concluded_trace]
  rcases hattempts.unswayed hdelay with ⟨⟨message, hcancelled⟩, hshared⟩ | hsame
  · left
    rw [hcancelled]
    exact ⟨⟨message, rfl⟩, hshared⟩
  · right
    rw [hsame]
    exact ⟨rfl, withoutToken_concluded _ _⟩

end Fetcher

section Growth

omit [AddCommGroup τ] [LinearOrder τ] [TimeText τ]

/-- Ways to fetch that forget no request. -/
def Fetching.IsGrowing (fetch : Request → Fetching τ Json) : Prop :=
  ∀ request (session : Session τ), session.askings <+: (fetch request session).2.askings

variable {fetch : Request → Fetching τ Json}

theorem Plan.askings_kept_perform (hgrowing : Fetching.IsGrowing fetch) (plan : Plan α)
    (session : Session τ) : session.askings <+: (plan.perform fetch session).2.askings := by
  induction plan generalizing session with
  | done value => exact List.prefix_refl _
  | unfinished => exact List.prefix_refl _
  | note entry next ih => exact ih { session with entries := session.entries ++ [entry] }
  | request wanted next ih =>
      rw [perform_request]
      exact (hgrowing wanted session).trans (ih _ _)

theorem Work.askings_kept_perform (hgrowing : Fetching.IsGrowing fetch) (work : Work α)
    (session : Session τ) : session.askings <+: (work.perform fetch session).2.askings := by
  rw [perform_snd]
  exact Plan.askings_kept_perform hgrowing work.run session

/-- A plan that raises cancellations again and is carried out with unswayed fetches is unswayed. -/
theorem Plan.Reraises.isUnswayed (hgrowing : Fetching.IsGrowing fetch)
    (hfetch : ∀ request, Fetching.IsUnswayed (fetch request)) {plan : Plan (Except Failure α)}
    (hplan : plan.Reraises) :
    Fetching.IsUnswayed (Work.perform fetch (ExceptT.mk plan)) := by
  induction plan with
  | done outcome => exact fun session => .inr ⟨rfl, rfl⟩
  | unfinished => exact fun session => .inr ⟨rfl, rfl⟩
  | note entry next ih =>
      exact fun session => ih hplan { session with entries := session.entries ++ [entry] }
  | request wanted next ih =>
      intro session
      have hbare := Work.perform_request fetch wanted next session.withoutToken
      rcases hfetch wanted session with ⟨⟨message, hcancelled⟩, hasked⟩ | ⟨hsame, hlater⟩
      · -- The fetch is cancelled, and the plan ends with it.
        have hcut : next (fetch wanted session).1 = .done (.error (.cancelled message)) := by
          rw [hcancelled]
          exact hplan.1 (.cancelled message) rfl
        rw [Work.perform_request, hcut, hbare]
        exact .inl ⟨⟨message, rfl⟩, hasked.trans (Work.askings_kept_perform hgrowing _ _)⟩
      · rw [Work.perform_request, hbare, ← hsame, ← hlater]
        exact ih _ (hplan.2 _) _

end Growth

/-! ### Sources -/

/-- Work that a token does not sway.  A request of it that is cancelled is the last one, and what
the work comes to is that cancellation. -/
structure Work.IsUnswayed (fetch : Request → Fetching τ Json) (work : Work α) : Prop where
  agrees : Fetching.IsUnswayed (work.perform fetch)
  ends : ∀ (session : Session τ) (number : Nat) (item : Fetched) (failure : Failure),
    (work.run.fetched fetch session)[number]? = some item → item.reply = .error failure →
      failure.isCancelled = true →
        (work.perform fetch session).1 = .error failure ∧
          (work.run.fetched fetch session).length = number + 1

namespace Source

/-- A source none of whose listings is swayed by a token, whatever is asked for. -/
structure IsUnswayed (fetch : Request → Fetching τ Json) (source : Source Plan) : Prop where
  stations : Work.IsUnswayed fetch source.stations
  parameters : ∀ stationId, Work.IsUnswayed fetch (source.parameters stationId)
  measurements : ∀ query, Work.IsUnswayed fetch (source.measurements query)

variable [IsOrderedAddMonoid τ]

theorem isUnswayed_of_reraises {fetcher : Fetcher τ} (hdelay : 0 ≤ fetcher.retryDelay)
    (remote : Remote τ) {source : Source Plan} (hsource : source.Reraises) :
    source.IsUnswayed (fetcher.fetch remote) := by
  have hwork : ∀ {α : Type} {work : Work α}, work.Reraises →
      work.IsUnswayed (fetcher.fetch remote) := fun hreraises =>
    { agrees := Plan.Reraises.isUnswayed (fetcher.askings_kept_fetch remote)
        (fun request => Fetcher.isUnswayed_fetch hdelay) hreraises
      ends := fun session number item failure => hreraises.ends_of_cancelled }
  exact ⟨hwork hsource.stations, fun stationId => hwork (hsource.parameters stationId),
    fun query => hwork (hsource.measurements query)⟩

/-- Each listing of each provider, asked with a token, is cancelled or comes to what it comes to
without one; and what it has asked until then, it asks without one too.  A cancelled request is the
last that a listing makes, which then comes to the cancellation: it is not taken for a lack of data,
and nothing is asked of an archive instead. -/
theorem providers_unswayed (fetcher : Fetcher τ) (hdelay : 0 ≤ fetcher.retryDelay)
    (remote : Remote τ) (now : Time.Moment) (pages : Nat) (hasKey : Bool)
    (points : List Station) (offered : List OpenMeteo.Variable) :
    (Gios.source now pages).IsUnswayed (fetcher.fetch remote) ∧
      (OpenAq.source now hasKey pages).IsUnswayed (fetcher.fetch remote) ∧
      (OpenMeteo.source now points offered).IsUnswayed (fetcher.fetch remote) :=
  ⟨isUnswayed_of_reraises hdelay remote (Gios.reraises_source now pages),
    isUnswayed_of_reraises hdelay remote (OpenAq.reraises_source now hasKey pages),
    isUnswayed_of_reraises hdelay remote (OpenMeteo.reraises_source now points offered)⟩

/-- A fetcher that leaves three seconds after a success. -/
def unhurried : Fetcher ℤ := ⟨Gios.name, 3, 2, 5, .whole 30⟩

/-- A listing of two pages. -/
def twoPages : Remote ℤ := fun _ _ =>
  ⟨.answer 200 "OK" (.value (.object [("totalPages", .int 2)])), 1, false⟩

/-- A call with two seconds left, which end while it waits for its second slot. -/
def shortOfTime : Session ℤ := { Session.start 0 with token := some ⟨false, some 2, none⟩ }

/-- The second page is not asked for, and the first is not listed without it. -/
theorem providers_unswayed_deadline :
    let stations := (Gios.source ⟨0, some 0⟩ 5).stations
    let performed := Work.perform (unhurried.fetch twoPages) stations
    let fetched := stations.run.fetched (unhurried.fetch twoPages) shortOfTime
    0 ≤ unhurried.retryDelay ∧
      ((performed shortOfTime).1.isOk = false ∧ (performed shortOfTime).2.requests.length = 1) ∧
      ((performed shortOfTime.withoutToken).1.isOk = true ∧
        (performed shortOfTime.withoutToken).2.requests.length = 2) ∧
      Fetching.Agrees (performed shortOfTime) (performed shortOfTime.withoutToken) ∧
      ∃ item message, fetched[1]? = some item ∧ item.reply = .error (.cancelled message) ∧
        (performed shortOfTime).1 = .error (.cancelled message) ∧ fetched.length = 2 := by
  intro stations performed fetched
  have hstations :=
    (providers_unswayed unhurried (by decide) twoPages ⟨0, some 0⟩ 5 true [] []).1.stations
  refine ⟨by decide, by decide +kernel, by decide +kernel, hstations.agrees shortOfTime,
    ⟨_, _⟩, _, rfl, rfl, hstations.ends shortOfTime 1 _ _ rfl rfl rfl⟩

end Source

end AirQuality
