import AirQuality.Proofs.Fetch.Pace
import AirQuality.Proofs.Fetch.Token

/-!
# Fetches that heed their token

A token that many fetches carry, of whatever fetchers, is heeded by each of them.  Between the
fetches time passes and callers look at the token or cancel it.  Once it is cancelled it stays so,
and a fetch that starts then fails at once and leaves its session as it was.
-/

namespace AirQuality

variable {τ : Type}

/-! ### Sessions that heed their token -/

namespace Session

/-- What has happened from one session to a later one heeds the token. -/
def Heeds [Add τ] [OfNat τ 0] [LE τ] (remote : Remote τ) (found later : Session τ) : Prop :=
  ∃ token events last, found.token = some token ∧ later.token = some last ∧
    later.trace = found.trace ++ events ∧
    Token.Heeds remote token found.clock events last later.clock

theorem calm_of_look [LE τ] [DecidableLE τ] {session : Session τ} {token : Token τ}
    (htoken : session.token = some token) (hlook : session.look.1 = false) :
    ¬token.IsCancelled session.clock := by
  rw [look_of_tokened htoken] at hlook
  exact mt Token.look_eq_true_iff.mpr (Bool.eq_false_iff.mp hlook)

section Steps

variable [Add τ] [OfNat τ 0] [LE τ] {remote : Remote τ}

theorem heeds_of_same {found later : Session τ} {token : Token τ}
    (htoken : found.token = some token) (hsame : later.token = found.token)
    (htrace : later.trace = found.trace) (hclock : later.clock = found.clock) :
    found.Heeds remote later := by
  refine ⟨token, [], token, htoken, hsame.trans htoken, ?_, ?_⟩
  · rw [htrace, List.append_nil]
  · rw [hclock]
    exact .done token found.clock

theorem Heeds.trans {found middle later : Session τ} (hfirst : found.Heeds remote middle)
    (hsecond : middle.Heeds remote later) : found.Heeds remote later := by
  obtain ⟨token, events, next, htoken, hnext, htrace, hheeds⟩ := hfirst
  obtain ⟨other, more, last, hother, hlast, hmore, hrest⟩ := hsecond
  obtain rfl : next = other := Option.some.inj (hnext.symm.trans hother)
  refine ⟨token, events ++ more, last, htoken, hlast, ?_, hheeds.trans hrest⟩
  rw [hmore, htrace, List.append_assoc]

theorem Heeds.exists_token {found later : Session τ} (hheeds : found.Heeds remote later) :
    ∃ token, later.token = some token := by
  obtain ⟨-, -, last, -, hlast, -⟩ := hheeds
  exact ⟨last, hlast⟩

theorem heeds_note {session : Session τ} {token : Token τ} (htoken : session.token = some token)
    (level : Log.Level) (text : String) : session.Heeds remote (session.note level text) :=
  heeds_of_same htoken rfl rfl rfl

theorem heeds_look [DecidableLE τ] {session : Session τ} {token : Token τ}
    (htoken : session.token = some token) : session.Heeds remote session.look.2 := by
  rw [look_of_tokened htoken]
  by_cases hcancelled : token.IsCancelled session.clock
  · rw [Token.look_of_isCancelled hcancelled]
    exact ⟨token, [], token.cancel, htoken, rfl, (List.append_nil _).symm, .seen hcancelled⟩
  · rw [Token.look_of_calm hcancelled]
    exact heeds_of_same htoken htoken.symm rfl rfl

/-- A request that is issued where the token is not cancelled heeds it. -/
theorem heeds_asks [DecidableLE τ] {session later : Session τ} {token : Token τ}
    {request : Request} {earlier : List Request} (htoken : session.token = some token)
    (hlook : session.look.1 = false)
    (hasks : session.Asks later request (remote earlier request)) :
    session.Heeds remote later := by
  refine ⟨token, _, token.afterRequest (remote earlier request), htoken, ?_, hasks.trace, ?_⟩
  · rw [hasks.token, htoken]
    unfold Token.afterRequest
    split
    · rfl
    · rfl
  · apply Token.Heeds.asked (calm_of_look htoken hlook) earlier request
    rw [hasks.clock]
    exact .done _ _

end Steps

variable [AddCommGroup τ] [LinearOrder τ] [IsOrderedAddMonoid τ] {remote : Remote τ}

theorem heeds_waited {session : Session τ} {token : Token τ}
    (htoken : session.token = some token) (hlook : session.look.1 = false) (seconds : τ) :
    session.Heeds remote (session.waited seconds) := by
  have hcalm := calm_of_look htoken hlook
  have hrest : session.restOf seconds = token.rest session.clock seconds := by
    simp only [restOf, htoken]
  obtain ⟨hforward, hclock, hdeadline, hmoment⟩ := Token.rest_of_calm seconds hcalm
  rw [← hrest] at hforward hclock hdeadline hmoment
  refine ⟨token, [.rested (session.restOf seconds).seconds], token, htoken, htoken, rfl, ?_⟩
  apply Token.Heeds.rested hcalm hforward
  · rw [hclock]
    exact hdeadline
  · rw [hclock]
    exact hmoment
  · rw [hclock]
    exact .done token _

theorem heeds_wait {session : Session τ} {token : Token τ} (htoken : session.token = some token)
    (seconds : τ) : session.Heeds remote (session.wait seconds).2 := by
  rw [wait_eq]
  by_cases hlook : session.look.1 = true
  · rw [if_pos hlook]
    exact heeds_look htoken
  · rw [if_neg hlook]
    have hwaited : session.Heeds remote (session.waited seconds) :=
      heeds_waited htoken (Bool.eq_false_iff.mpr hlook) seconds
    exact hwaited.trans (heeds_look htoken)

end Session

/-! ### Attempts and fetches -/

namespace Fetcher

theorem concluded_clock (last : Except AttemptFault Json) (session : Session τ) :
    (concluded last session).clock = session.clock := by
  unfold concluded
  split
  · rfl
  · rfl

variable [AddCommGroup τ] [LinearOrder τ] [TimeText τ]

theorem pause_snd (fetcher : Fetcher τ) (seconds : τ) (session : Session τ) :
    (fetcher.pause seconds session).2 = (session.wait seconds).2 := by
  unfold pause
  split
  · next hwait => rw [hwait]
  · next hwait => rw [hwait]

/-- A fetch that starts with a cancelled token fails and leaves its session as it was, but for the
token, which is set. -/
theorem fetch_of_isCancelled (fetcher : Fetcher τ) (remote : Remote τ) (request : Request)
    {found : Session τ} {token : Token τ} (htoken : found.token = some token)
    (hcancelled : token.IsCancelled found.clock) :
    fetcher.fetch remote request found =
      (.error (.cancelled Session.cancelledText), { found with token := some token.cancel }) := by
  have hlook : found.look = (true, { found with token := some token.cancel }) := by
    rw [Session.look_of_tokened htoken, Token.look_of_isCancelled hcancelled]
  have happroach : fetcher.approach found =
      (.error (.other (.cancelled Session.cancelledText)),
        { found with token := some token.cancel }) := by
    rw [approach_eq, hlook]
  rw [fetch_eq, attempts_of_halted happroach]
  rfl

variable [IsOrderedAddMonoid τ] {fetcher : Fetcher τ} {remote : Remote τ} {request : Request}

theorem heeds_pause {session : Session τ} {token : Token τ} (htoken : session.token = some token)
    (fetcher : Fetcher τ) (seconds : τ) :
    session.Heeds remote (fetcher.pause seconds session).2 := by
  rw [pause_snd]
  exact Session.heeds_wait htoken seconds

/-- A note and the pause it announces heed the token. -/
theorem heeds_announced {session : Session τ} {token : Token τ}
    (htoken : session.token = some token) (fetcher : Fetcher τ) (level : Log.Level)
    (text : String) (seconds : τ) :
    session.Heeds remote (fetcher.pause seconds (session.note level text)).2 := by
  have hnoted : (session.note level text).token = some token := htoken
  exact (Session.heeds_note htoken level text).trans (heeds_pause hnoted fetcher seconds)

theorem heeds_approach {session : Session τ} {token : Token τ}
    (htoken : session.token = some token) (fetcher : Fetcher τ) :
    session.Heeds remote (fetcher.approach session).2 := by
  have hlook : session.Heeds remote session.look.2 := Session.heeds_look htoken
  rw [approach_eq]
  split
  · next hseen => rwa [hseen] at hlook
  · rw [waitForSlot_eq]
    split
    · exact Session.heeds_of_same htoken rfl rfl rfl
    · exact heeds_announced htoken fetcher .debug _ _

/-- What an attempt does until its request is settled heeds the token. -/
theorem heeds_asked {found asked : Session τ} {token : Token τ}
    {outcome : Except AttemptFault Json} (htoken : found.token = some token)
    (happroach : fetcher.approach found = (.ok (), fetcher.slot found))
    (hask : fetcher.ask remote request (fetcher.slot found) = (outcome, asked)) :
    found.Heeds remote asked := by
  have hslot : found.Heeds remote (fetcher.approach found).2 := heeds_approach htoken fetcher
  rw [happroach] at hslot
  obtain ⟨next, hnext⟩ := hslot.exists_token
  obtain ⟨-, hasks⟩ := Attempts.asks_slot hask
  exact hslot.trans (Session.heeds_asks hnext (isReady_slot happroach).2 hasks)

/-- The pause after a refusal heeds the token too. -/
theorem heeds_paused {refused rested : Session τ} {token : Token τ} {label message : String}
    {outcome : Except AttemptFault Unit} (htoken : refused.token = some token)
    (hpause : fetcher.pause fetcher.retryDelay
      (refused.note .warning (fetcher.retryText label message)) = (outcome, rested)) :
    refused.Heeds remote rested := by
  have hpaused : refused.Heeds remote (fetcher.pause fetcher.retryDelay
      (refused.note .warning (fetcher.retryText label message))).2 :=
    heeds_announced htoken fetcher .warning _ _
  rwa [hpause] at hpaused

theorem Attempts.heeds {more : Nat} {found left : Session τ}
    {outcome : Except AttemptFault Json}
    (hattempts : Attempts fetcher remote request more found outcome left) {token : Token τ}
    (htoken : found.token = some token) : found.Heeds remote left := by
  induction hattempts generalizing token with
  | @halted more found _ _ happroach =>
      have hhalted : found.Heeds remote (fetcher.approach found).2 :=
        heeds_approach htoken fetcher
      rwa [happroach] at hhalted
  | settled happroach hask hsettled => exact heeds_asked htoken happroach hask
  | haltedAgain happroach hask hpause =>
      have hasked := heeds_asked htoken happroach hask
      obtain ⟨next, hnext⟩ := hasked.exists_token
      exact hasked.trans (heeds_paused hnext hpause)
  | again happroach hask hpause hmore ih =>
      have hasked := heeds_asked htoken happroach hask
      obtain ⟨next, hnext⟩ := hasked.exists_token
      have hpaused := hasked.trans (heeds_paused hnext hpause)
      obtain ⟨last, hlast⟩ := hpaused.exists_token
      exact hpaused.trans (ih hlast)

/-- A fetch heeds the token it carries. -/
theorem heeds_fetch (fetcher : Fetcher τ) (remote : Remote τ) (request : Request)
    {found : Session τ} {token : Token τ} (htoken : found.token = some token) :
    found.Heeds remote (fetcher.fetch remote request found).2 := by
  have hattempts := fetcher.attempts_attempts remote request fetcher.retries found
  obtain ⟨next, hnext⟩ := (hattempts.heeds htoken).exists_token
  rw [fetch_eq]
  apply (hattempts.heeds htoken).trans
  apply Session.heeds_of_same hnext
  · exact concluded_token _ _
  · exact concluded_trace _ _
  · exact concluded_clock _ _

end Fetcher

/-! ### The uses of a token -/

namespace Token

/-- What may happen while a token is in use: time passes, someone cancels it or looks at it, or a
fetch carries it.  Any fetcher may do that, whatever its session was like before. -/
inductive Use (τ : Type) where
  | pass (seconds : τ)
  | cancel
  | look
  | fetch (fetcher : Fetcher τ) (remote : Remote τ) (request : Request) (session : Session τ)

/-- No time is taken back. -/
def Use.IsForward [OfNat τ 0] [LE τ] : Use τ → Prop
  | .pass seconds => 0 ≤ seconds
  | .fetch _ remote _ _ => ∀ earlier request, 0 ≤ (remote earlier request).takes
  | _ => True

/-- Whether the use shows if the token is cancelled. -/
def Use.Shows : Use τ → Prop
  | .look => True
  | .fetch .. => True
  | _ => False

/-- A token, and what the clock shows. -/
structure Timed (τ : Type) where
  token : Token τ
  clock : τ

namespace Timed

def IsCancelled [LE τ] (timed : Timed τ) : Prop := timed.token.IsCancelled timed.clock

/-- A session of a fetch that carries the token. -/
def carriedIn (session : Session τ) (timed : Timed τ) : Session τ :=
  { session with token := some timed.token, clock := timed.clock }

variable [AddCommGroup τ] [LinearOrder τ] [TimeText τ]

/-- The fetch of a session that carries the token. -/
def fetched (fetcher : Fetcher τ) (remote : Remote τ) (request : Request) (session : Session τ)
    (timed : Timed τ) : Except Failure Json × Session τ :=
  fetcher.fetch remote request (timed.carriedIn session)

def after : Use τ → Timed τ → Timed τ
  | .pass seconds, timed => { timed with clock := timed.clock + seconds }
  | .cancel, timed => { timed with token := timed.token.cancel }
  | .look, timed => { timed with token := (timed.token.look timed.clock).2 }
  | .fetch fetcher remote request session, timed =>
    let left := (timed.fetched fetcher remote request session).2
    ⟨left.token.getD timed.token, left.clock⟩

/-- The token and the clock after some uses. -/
def run (uses : List (Use τ)) (timed : Timed τ) : Timed τ :=
  uses.foldl (fun timed use => timed.after use) timed

theorem run_append (uses more : List (Use τ)) (timed : Timed τ) :
    timed.run (uses ++ more) = (timed.run uses).run more :=
  List.foldl_append

theorem fetched_of_isCancelled {timed : Timed τ} (hcancelled : timed.IsCancelled)
    (fetcher : Fetcher τ) (remote : Remote τ) (request : Request) (session : Session τ) :
    timed.fetched fetcher remote request session =
      (.error (.cancelled Session.cancelledText),
        { timed.carriedIn session with token := some timed.token.cancel }) :=
  fetcher.fetch_of_isCancelled remote request rfl hcancelled

/-- A use that shows that the token is cancelled sets it. -/
theorem isSet_after {timed : Timed τ} {use : Use τ} (hshows : use.Shows)
    (hcancelled : timed.IsCancelled) : (timed.after use).token.isSet = true := by
  cases use with
  | pass seconds => exact hshows.elim
  | cancel => exact hshows.elim
  | look => exact congrArg (·.2.isSet) (look_of_isCancelled hcancelled)
  | fetch fetcher remote request session =>
      simp only [after, fetched_of_isCancelled hcancelled, Option.getD_some]
      rfl

variable [IsOrderedAddMonoid τ]

theorem heeds_fetched (fetcher : Fetcher τ) (remote : Remote τ) (request : Request)
    (session : Session τ) (timed : Timed τ) :
    ∃ events last, (timed.fetched fetcher remote request session).2.token = some last ∧
      (timed.fetched fetcher remote request session).2.trace = session.trace ++ events ∧
      Heeds remote timed.token timed.clock events last
        (timed.fetched fetcher remote request session).2.clock := by
  have htoken : (timed.carriedIn session).token = some timed.token := rfl
  obtain ⟨token, events, last, hsame, hlast, htrace, hheeds⟩ :=
    fetcher.heeds_fetch remote request htoken
  obtain rfl : timed.token = token := Option.some.inj hsame
  exact ⟨events, last, hlast, htrace, hheeds⟩

theorem becomes_after (use : Use τ) (timed : Timed τ) :
    timed.token.Becomes (timed.after use).token := by
  cases use with
  | pass seconds => exact .refl _
  | cancel => exact .inr rfl
  | look => exact becomes_look timed.clock timed.token
  | fetch fetcher remote request session =>
      obtain ⟨events, last, hlast, -, hheeds⟩ :=
        timed.heeds_fetched fetcher remote request session
      simp only [after, hlast, Option.getD_some]
      exact hheeds.becomes

theorem clock_le_after {use : Use τ} (hforward : use.IsForward) (timed : Timed τ) :
    timed.clock ≤ (timed.after use).clock := by
  cases use with
  | pass seconds => exact le_add_of_nonneg_right hforward
  | cancel => exact le_refl _
  | look => exact le_refl _
  | fetch fetcher remote request session =>
      obtain ⟨events, last, -, -, hheeds⟩ := timed.heeds_fetched fetcher remote request session
      exact hheeds.clock_le hforward

theorem becomes_run (uses : List (Use τ)) (timed : Timed τ) :
    timed.token.Becomes (timed.run uses).token := by
  induction uses generalizing timed with
  | nil => exact .refl _
  | cons use uses ih => exact (timed.becomes_after use).trans (ih (timed.after use))

theorem clock_le_run {uses : List (Use τ)} (hforward : ∀ use ∈ uses, use.IsForward)
    (timed : Timed τ) : timed.clock ≤ (timed.run uses).clock := by
  induction uses generalizing timed with
  | nil => exact le_refl _
  | cons use uses ih =>
      obtain ⟨hfirst, hothers⟩ := List.forall_mem_cons.mp hforward
      exact (clock_le_after hfirst timed).trans (ih hothers (timed.after use))

/-- Every fetch of a run heeds the token that the uses before it have left: it issues no request
and starts no wait while the token is cancelled, and no wait goes beyond the deadline or the moment
of the cancellation.  One that starts with the token cancelled fails and leaves everything else in
its session as it was.  The token itself keeps its deadline and its moment.  Once it is seen
cancelled it is set for good, and unless time is taken back it is cancelled for good even before
that. -/
theorem run_heeds_token (uses : List (Use τ)) (timed : Timed τ) :
    (∀ earlier fetcher remote request session later,
      uses = earlier ++ .fetch fetcher remote request session :: later →
      let found := timed.run earlier
      let fetched := found.fetched fetcher remote request session
      (∃ events last, fetched.2.token = some last ∧
        fetched.2.trace = session.trace ++ events ∧
        Heeds remote found.token found.clock events last fetched.2.clock) ∧
      (found.IsCancelled → fetched =
        (.error (.cancelled Session.cancelledText),
          { found.carriedIn session with token := some found.token.cancel }))) ∧
      timed.token.Becomes (timed.run uses).token ∧
      (∀ earlier use later, uses = earlier ++ use :: later → use.Shows →
        (timed.run earlier).IsCancelled → (timed.run uses).token.isSet = true) ∧
      ((∀ use ∈ uses, use.IsForward) → ∀ earlier later, uses = earlier ++ later →
        (timed.run earlier).IsCancelled → (timed.run uses).IsCancelled) := by
  refine ⟨?_, timed.becomes_run uses, ?_, ?_⟩
  · intro earlier fetcher remote request session later _ found fetched
    exact ⟨found.heeds_fetched fetcher remote request session,
      fun hcancelled => fetched_of_isCancelled hcancelled fetcher remote request session⟩
  · rintro earlier use later rfl hshows hcancelled
    rw [run_append]
    have hset : ((timed.run earlier).after use).token.isSet = true :=
      isSet_after hshows hcancelled
    exact (becomes_run later _).isSet hset
  · rintro hforward earlier later rfl hcancelled
    rw [run_append]
    have hlater : ∀ use ∈ later, use.IsForward :=
      fun use hmem => hforward use (List.mem_append_right earlier hmem)
    exact (becomes_run later _).isCancelled hcancelled (clock_le_run hlater _)

/-- A provider that is always overloaded. -/
def busy : Remote ℤ := fun _ _ => ⟨.answer 503 "Service Unavailable" (.text ""), 1, false⟩

def busyFetch : Use ℤ := .fetch Desk.patient busy ⟨"stations", none⟩ (Session.start 0)

/-- A token with a deadline that comes before another attempt is due. -/
def hurried : Timed ℤ := ⟨⟨false, some 4, none⟩, 0⟩

/-- The first fetch meets the deadline while it waits, and a second, one second later, fails at
once. -/
theorem run_heeds_token_hurried :
    let first := hurried.fetched Desk.patient busy ⟨"stations", none⟩ (Session.start 0)
    let second := (hurried.run [busyFetch, .pass 1]).fetched Desk.patient busy
      ⟨"stations", none⟩ (Session.start 0)
    first.2.requests = [⟨"stations", none⟩] ∧ first.2.rests = [3] ∧ first.2.clock = 4 ∧
      (∃ last, Heeds busy hurried.token 0 first.2.trace last first.2.clock) ∧
      second.1 = .error (.cancelled Session.cancelledText) ∧ second.2.requests = [] ∧
      (hurried.run [busyFetch, .pass 1, busyFetch]).token.isSet = true ∧
      (hurried.run [busyFetch, .pass 1, busyFetch]).IsCancelled := by
  intro first second
  have hforward : ∀ use ∈ [busyFetch, .pass 1, busyFetch], use.IsForward := by
    simp [busyFetch, Use.IsForward, busy]
  have hcancelled : (hurried.run [busyFetch, .pass 1]).IsCancelled :=
    isCancelled_of_isSet (by decide)
  obtain ⟨hfetches, -, hseen, hstays⟩ := run_heeds_token [busyFetch, .pass 1, busyFetch] hurried
  obtain ⟨⟨events, last, -, htrace, hheeds⟩, -⟩ := hfetches [] _ _ _ _ _ rfl
  obtain ⟨-, hfails⟩ := hfetches [busyFetch, .pass 1] _ _ _ _ _ rfl
  obtain rfl : first.2.trace = events := htrace
  refine ⟨rfl, by decide, by decide, ⟨last, hheeds⟩, ?_, ?_, ?_, ?_⟩
  · exact congrArg Prod.fst (hfails hcancelled)
  · exact congrArg (·.2.requests) (hfails hcancelled)
  · exact hseen [busyFetch, .pass 1] busyFetch [] rfl trivial hcancelled
  · exact hstays hforward [busyFetch, .pass 1] [busyFetch] rfl hcancelled

end Timed

end Token

end AirQuality
