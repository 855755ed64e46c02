import AirQuality.Proofs.Fetch.Attempt
import AirQuality.Proofs.Fetch.Trace

/-!
# How often a request is tried

A fetch that is not cancelled issues its request until a reply comes that is not transient, or
until no attempts are left, and the last reply settles its outcome.  Whatever happens, the
counters and the last success of a session agree with its trace.
-/

namespace AirQuality

variable {τ : Type}

/-- The reply to a request that has been issued so many times already, after some requests before
it. -/
def Remote.replyTo (remote : Remote τ) (earlier : List Request) (request : Request)
    (times : Nat) : Reply :=
  (remote (earlier ++ List.replicate times request) request).reply

/-- The place of the first reply that is not transient. -/
def Reply.SettledFirstAt (replies : Nat → Reply) (place : Nat) : Prop :=
  ¬(replies place).IsTransient ∧ ∀ earlier < place, (replies earlier).IsTransient

/-- A request with some replies is tried so many times, if it may be tried up to a limit. -/
structure Reply.Tried (replies : Nat → Reply) (limit count : Nat) : Prop where
  pos : 0 < count
  le_limit : count ≤ limit
  transient : ∀ place, place + 1 < count → (replies place).IsTransient
  settled : count < limit → ¬(replies (count - 1)).IsTransient

theorem Reply.Tried.eq_min {replies : Nat → Reply} {limit count place : Nat}
    (htried : Tried replies limit count) (hfirst : SettledFirstAt replies place) :
    count = min limit (place + 1) := by
  obtain ⟨hsettled, htransient⟩ := hfirst
  have hle : count ≤ place + 1 := by
    by_contra hgt
    exact hsettled (htried.transient place (by omega))
  rcases Nat.lt_or_ge count limit with hlt | hge
  · have hplace : ¬count - 1 < place := fun hbefore =>
      htried.settled hlt (htransient _ hbefore)
    have hpos := htried.pos
    omega
  · have hlimit := htried.le_limit
    omega

theorem Reply.Tried.eq_limit {replies : Nat → Reply} {limit count : Nat}
    (htried : Tried replies limit count) (hall : ∀ place, (replies place).IsTransient) :
    count = limit := by
  by_contra hne
  exact htried.settled (Nat.lt_of_le_of_ne htried.le_limit hne) (hall _)

/-- A request whose first reply is transient is tried once more than it would be without it. -/
theorem Reply.Tried.succ {replies : Nat → Reply} {limit count : Nat}
    (htried : Tried (fun place => replies (place + 1)) limit count)
    (hfirst : (replies 0).IsTransient) : Tried replies (limit + 1) (count + 1) where
  pos := Nat.succ_pos count
  le_limit := Nat.succ_le_succ htried.le_limit
  transient place hplace := by
    cases place with
    | zero => exact hfirst
    | succ place => exact htried.transient place (Nat.lt_of_succ_lt_succ hplace)
  settled hlt := by
    have hsettled := htried.settled (Nat.lt_of_succ_lt_succ hlt)
    rw [Nat.sub_add_cancel htried.pos] at hsettled
    exact hsettled

theorem Remote.replyTo_zero (remote : Remote τ) (earlier : List Request) (request : Request) :
    remote.replyTo earlier request 0 = (remote earlier request).reply := by
  unfold replyTo
  rw [List.replicate_zero, List.append_nil]

theorem Remote.replyTo_append (remote : Remote τ) (earlier : List Request) (request : Request)
    (times : Nat) :
    remote.replyTo (earlier ++ [request]) request times =
      remote.replyTo earlier request (times + 1) := by
  unfold replyTo
  rw [List.append_assoc]
  rfl

namespace Session

theorem Waits.askings_eq {session later : Session τ} {rests : List τ}
    (hwaits : session.Waits later rests) : later.askings = session.askings := by
  unfold askings
  rw [hwaits.trace, Event.askings_append, Event.askings_rests, List.append_nil]

theorem Waits.requests_eq {session later : Session τ} {rests : List τ}
    (hwaits : session.Waits later rests) : later.requests = session.requests := by
  rw [Session.requests_eq, Session.requests_eq, hwaits.askings_eq]

variable [Add τ]

theorem Asks.askings_eq {session later : Session τ} {request : Request} {exchange : Exchange τ}
    (hasks : session.Asks later request exchange) :
    later.askings = session.askings ++ [⟨request, session.clock, exchange⟩] := by
  unfold askings
  rw [hasks.trace, Event.askings_append]
  rfl

theorem Asks.requests_eq {session later : Session τ} {request : Request} {exchange : Exchange τ}
    (hasks : session.Asks later request exchange) :
    later.requests = session.requests ++ [request] := by
  rw [Session.requests_eq, Session.requests_eq, hasks.askings_eq, List.map_append]
  rfl

theorem Asks.token_eq_none_iff {session later : Session τ} {request : Request}
    {exchange : Exchange τ} (hasks : session.Asks later request exchange) :
    later.token = none ↔ session.token = none := by
  rw [hasks.token]
  split
  · exact Option.map_eq_none_iff
  · rfl

/-- The counter of requests and the last success agree with the trace. -/
structure IsCounted (session : Session τ) : Prop where
  requestCount : session.requestCount = session.askings.length
  lastSuccess : session.lastSuccess =
    (Asking.lastSuccess? session.askings).map Asking.completed

theorem IsCounted.waits {session later : Session τ} {rests : List τ}
    (hcounted : session.IsCounted) (hwaits : session.Waits later rests) : later.IsCounted where
  requestCount := by rw [hwaits.requestCount, hwaits.askings_eq, hcounted.requestCount]
  lastSuccess := by rw [hwaits.lastSuccess, hwaits.askings_eq, hcounted.lastSuccess]

theorem IsCounted.asks {session later : Session τ} {request : Request} {exchange : Exchange τ}
    (hcounted : session.IsCounted) (hasks : session.Asks later request exchange) :
    later.IsCounted where
  requestCount := by
    rw [hasks.requestCount, hasks.askings_eq, hcounted.requestCount, List.length_append]
    rfl
  lastSuccess := by
    rw [hasks.lastSuccess, hasks.askings_eq, Asking.lastSuccess?_append_singleton, hasks.clock]
    unfold Asking.isSuccess
    split
    · rfl
    · exact hcounted.lastSuccess

end Session

namespace Fetcher

variable [Add τ] [Sub τ] [OfNat τ 0] [LT τ] [LE τ] [DecidableLT τ] [DecidableLE τ] [TimeText τ]

/-- A session whose slot has come and whose token is not cancelled. -/
def IsReady (fetcher : Fetcher τ) (session : Session τ) : Prop :=
  (∃ found, session = fetcher.slot found) ∧ session.look.1 = false

theorem isReady_slot {fetcher : Fetcher τ} {found : Session τ}
    (happroach : fetcher.approach found = (.ok (), fetcher.slot found)) :
    fetcher.IsReady (fetcher.slot found) :=
  ⟨⟨found, rfl⟩, (eq_slot_of_approach happroach).2⟩

namespace Attempts

variable {fetcher : Fetcher τ} {remote : Remote τ} {request : Request} {more : Nat}
  {found left : Session τ} {outcome : Except AttemptFault Json}

omit [LE τ] [DecidableLE τ] in
/-- Where an attempt finds its token uncancelled, the request is issued in its slot. -/
theorem asks_slot {asked : Session τ}
    (hask : fetcher.ask remote request (fetcher.slot found) = (outcome, asked)) :
    outcome = (remote found.requests request).reply.payload request.url ∧
      (fetcher.slot found).Asks asked request (remote found.requests request) := by
  obtain ⟨rests, hslot⟩ := fetcher.exists_waits_slot found
  have hspec := fetcher.ask_spec remote request (fetcher.slot found)
  rw [hask, hslot.requests_eq] at hspec
  exact hspec

/-- What holds of a session before some attempts holds after them, if neither a wait nor a request
that is issued in its slot can end it. -/
theorem preserve {P : Session τ → Prop}
    (hwaits : ∀ session later rests, P session → session.Waits later rests → P later)
    (hasks : ∀ session later exchange, P session → fetcher.IsReady session →
      session.Asks later request exchange → P later)
    (hattempts : Attempts fetcher remote request more found outcome left) (hfound : P found) :
    P left := by
  have hslot : ∀ session, P session → P (fetcher.slot session) := by
    intro session hsession
    obtain ⟨rests, hwaited⟩ := fetcher.exists_waits_slot session
    exact hwaits _ _ _ hsession hwaited
  induction hattempts with
  | halted happroach =>
      obtain ⟨-, -, rests, hhalted⟩ := halts_of_approach happroach
      exact hwaits _ _ _ hfound hhalted
  | settled happroach hask hsettled =>
      exact hasks _ _ _ (hslot _ hfound) (isReady_slot happroach) (asks_slot hask).2
  | haltedAgain happroach hask hpause =>
      have hrefused := hasks _ _ _ (hslot _ hfound) (isReady_slot happroach) (asks_slot hask).2
      obtain ⟨-, -, rests, hhalted⟩ := halts_of_pause hpause
      exact hwaits _ _ _ (hwaits _ _ _ hrefused (Session.waits_note _ _ _)) hhalted
  | again happroach hask hpause hmore ih =>
      have hrefused := hasks _ _ _ (hslot _ hfound) (isReady_slot happroach) (asks_slot hask).2
      obtain ⟨rfl, -⟩ := eq_waited_of_pause hpause
      exact ih (hwaits _ _ _ (hwaits _ _ _ hrefused (Session.waits_note _ _ _))
        (Session.waits_waited _ _))

theorem isCounted (hattempts : Attempts fetcher remote request more found outcome left)
    (hcounted : found.IsCounted) : left.IsCounted :=
  hattempts.preserve (fun _ _ _ hsession hwaits => hsession.waits hwaits)
    (fun _ _ _ hsession _ hasks => hsession.asks hasks) hcounted

theorem errorCount_eq (hattempts : Attempts fetcher remote request more found outcome left) :
    left.errorCount = found.errorCount :=
  hattempts.preserve (P := fun session => session.errorCount = found.errorCount)
    (fun _ _ _ hsession hwaits => hwaits.errorCount.trans hsession)
    (fun _ _ _ hsession _ hasks => hasks.errorCount.trans hsession) rfl

theorem token_eq_none_iff (hattempts : Attempts fetcher remote request more found outcome left) :
    left.token = none ↔ found.token = none :=
  hattempts.preserve (P := fun session => session.token = none ↔ found.token = none)
    (fun _ _ _ hsession hwaits => hwaits.token.trans hsession)
    (fun _ _ _ hsession _ hasks => hasks.token_eq_none_iff.trans hsession) .rfl

theorem askings_kept (hattempts : Attempts fetcher remote request more found outcome left) :
    found.askings <+: left.askings :=
  hattempts.preserve (P := fun session => found.askings <+: session.askings)
    (fun _ _ _ hsession hwaits => by rwa [hwaits.askings_eq])
    (fun _ _ _ hsession _ hasks => by
      rw [hasks.askings_eq]
      exact hsession.trans (List.prefix_append _ _))
    (List.prefix_refl _)

/-- Attempts that are not cancelled go on until a reply settles them or none are left. -/
theorem tried (hattempts : Attempts fetcher remote request more found outcome left) :
    (∃ message, outcome = .error (.other (.cancelled message))) ∧ left.IsCut ∨
      ∃ count,
        Reply.Tried (remote.replyTo found.requests request) (more + 1) count ∧
        left.requests = found.requests ++ List.replicate count request ∧
        outcome = (remote.replyTo found.requests request (count - 1)).payload request.url := by
  induction hattempts with
  | halted happroach =>
      obtain ⟨⟨message, rfl⟩, hcut, -⟩ := halts_of_approach happroach
      exact .inl ⟨⟨message, rfl⟩, hcut⟩
  | haltedAgain happroach hask hpause =>
      obtain ⟨⟨message, rfl⟩, hcut, -⟩ := halts_of_pause hpause
      exact .inl ⟨⟨message, rfl⟩, hcut⟩
  | @settled more found left outcome happroach hask hsettled =>
      obtain ⟨houtcome, hasks⟩ := asks_slot hask
      obtain ⟨rests, hslot⟩ := fetcher.exists_waits_slot found
      have hreply := remote.replyTo_zero found.requests request
      refine .inr ⟨1, ⟨Nat.one_pos, by omega, by omega, ?_⟩, ?_, ?_⟩
      · intro hmore htransient
        rw [hreply, Reply.isTransient_iff _ request.url, ← houtcome] at htransient
        obtain ⟨fault, hfault, htransient⟩ := htransient
        rcases hsettled with rfl | hsettled
        · exact Nat.lt_irrefl _ hmore
        · exact hsettled fault hfault htransient
      · rw [hasks.requests_eq, hslot.requests_eq]
        rfl
      · rw [hreply]
        exact houtcome
  | @again more found refused rested left label message outcome happroach hask hpause hmore ih =>
      obtain ⟨houtcome, hasks⟩ := asks_slot hask
      obtain ⟨rests, hslot⟩ := fetcher.exists_waits_slot found
      obtain ⟨rfl, -⟩ := eq_waited_of_pause hpause
      have hrequests : (Session.waited fetcher.retryDelay
          (refused.note .warning (fetcher.retryText label message))).requests =
            found.requests ++ [request] := by
        rw [(Session.waits_waited _ _).requests_eq, (Session.waits_note _ _ _).requests_eq,
          hasks.requests_eq, hslot.requests_eq]
      rw [hrequests] at ih
      rcases ih with hcut | ⟨count, htried, hleft, hlast⟩
      · exact .inl hcut
      · have hreplies : remote.replyTo (found.requests ++ [request]) request =
            fun place => remote.replyTo found.requests request (place + 1) :=
          funext (remote.replyTo_append found.requests request)
        have hfirst : (remote.replyTo found.requests request 0).IsTransient := by
          rw [remote.replyTo_zero, Reply.isTransient_iff _ request.url]
          exact ⟨_, houtcome.symm, rfl⟩
        rw [hreplies] at htried hlast
        refine .inr ⟨count + 1, htried.succ hfirst, ?_, ?_⟩
        · rw [hleft, List.append_assoc]
          rfl
        · simp only [hlast, Nat.sub_add_cancel htried.pos, Nat.add_sub_cancel]

end Attempts

/-! ### Fetches -/

/-- What a fetch makes of its last attempt. -/
def verdict (fetcher : Fetcher τ) (request : Request) :
    Except AttemptFault Json → Except Failure Json
  | .ok payload => .ok payload
  | .error (.refused _ message _) => .error (.unavailable fetcher.source request.url message)
  | .error (.other failure) => .error failure

/-- The session after the last attempt of a fetch, with one more error if that was refused. -/
def concluded (last : Except AttemptFault Json) (session : Session τ) : Session τ :=
  match last with
  | .error (.refused ..) => { session with errorCount := session.errorCount + 1 }
  | _ => session

theorem fetch_eq (fetcher : Fetcher τ) (remote : Remote τ) (request : Request)
    (found : Session τ) :
    fetcher.fetch remote request found =
      (fetcher.verdict request (fetcher.attempts remote request fetcher.retries found).1,
        concluded (fetcher.attempts remote request fetcher.retries found).1
          (fetcher.attempts remote request fetcher.retries found).2) := by
  unfold fetch verdict concluded
  rcases fetcher.attempts remote request fetcher.retries found with ⟨fault | payload, left⟩
  · cases fault with
    | refused label message isTransient => rfl
    | other failure => rfl
  · rfl

section Concluded

omit [Add τ] [Sub τ] [OfNat τ 0] [LT τ] [LE τ] [DecidableLT τ] [DecidableLE τ] [TimeText τ]

variable (last : Except AttemptFault Json) (session : Session τ)

@[simp]
theorem concluded_token : (concluded last session).token = session.token := by
  unfold concluded
  split
  · rfl
  · rfl

@[simp]
theorem concluded_lastSuccess : (concluded last session).lastSuccess = session.lastSuccess := by
  unfold concluded
  split
  · rfl
  · rfl

@[simp]
theorem concluded_requestCount :
    (concluded last session).requestCount = session.requestCount := by
  unfold concluded
  split
  · rfl
  · rfl

@[simp]
theorem concluded_trace : (concluded last session).trace = session.trace := by
  unfold concluded
  split
  · rfl
  · rfl

end Concluded

/-- Whether a fetch failed because the provider could not be reached or refused. -/
def isUnavailable : Except Failure Json → Bool
  | .error failure => failure.isUnavailable
  | .ok _ => false

variable (fetcher : Fetcher τ) (remote : Remote τ) (request : Request) (found : Session τ)

/-- A fetch that is not cancelled tries its request until a reply settles it or no attempts are
left, and comes to what the last reply says. -/
theorem tried_fetch :
    (∃ message, (fetcher.fetch remote request found).1 = .error (.cancelled message)) ∧
        (fetcher.fetch remote request found).2.IsCut ∨
      ∃ count,
        Reply.Tried (remote.replyTo found.requests request) (fetcher.retries + 1) count ∧
        (fetcher.fetch remote request found).2.requests =
          found.requests ++ List.replicate count request ∧
        (fetcher.fetch remote request found).1 = fetcher.verdict request
          ((remote.replyTo found.requests request (count - 1)).payload request.url) := by
  have hattempts := fetcher.attempts_attempts remote request fetcher.retries found
  rw [fetch_eq]
  rcases hattempts.tried with ⟨⟨message, hcancelled⟩, hcut⟩ | ⟨count, htried, hleft, hlast⟩
  · left
    rw [hcancelled]
    exact ⟨⟨message, rfl⟩, hcut⟩
  · right
    refine ⟨count, htried, ?_, congrArg (fetcher.verdict request) hlast⟩
    rw [← hleft]
    unfold Session.requests
    rw [concluded_trace]

theorem isCounted_fetch (hcounted : found.IsCounted) :
    (fetcher.fetch remote request found).2.IsCounted := by
  have hattempts := fetcher.attempts_attempts remote request fetcher.retries found
  obtain ⟨hcount, hlast⟩ := hattempts.isCounted hcounted
  rw [fetch_eq]
  constructor
  · unfold Session.askings
    rw [concluded_requestCount, concluded_trace]
    exact hcount
  · unfold Session.askings
    rw [concluded_lastSuccess, concluded_trace]
    exact hlast

theorem token_fetch_eq_none_iff :
    (fetcher.fetch remote request found).2.token = none ↔ found.token = none := by
  have hattempts := fetcher.attempts_attempts remote request fetcher.retries found
  rw [fetch_eq, concluded_token]
  exact hattempts.token_eq_none_iff

theorem askings_kept_fetch :
    found.askings <+: (fetcher.fetch remote request found).2.askings := by
  have hattempts := fetcher.attempts_attempts remote request fetcher.retries found
  unfold Session.askings
  rw [fetch_eq, concluded_trace]
  exact hattempts.askings_kept

/-- A fetch counts an error exactly if it fails because its provider is unavailable. -/
theorem errorCount_fetch :
    (fetcher.fetch remote request found).2.errorCount =
      found.errorCount +
        if isUnavailable (fetcher.fetch remote request found).1 then 1 else 0 := by
  have hattempts := fetcher.attempts_attempts remote request fetcher.retries found
  have herrors := hattempts.errorCount_eq
  have hother : ∀ failure, (fetcher.attempts remote request fetcher.retries found).1 =
      .error (.other failure) → failure.isUnavailable = false := by
    intro failure hfailure
    rcases hattempts.tried with ⟨⟨message, hcancelled⟩, -⟩ | ⟨count, -, -, hlast⟩
    · rw [hcancelled] at hfailure
      cases hfailure
      rfl
    · exact (Reply.payload_other (hlast.symm.trans hfailure)).1
  rw [fetch_eq]
  rcases hfetched : (fetcher.attempts remote request fetcher.retries found).1 with fault | payload
  · cases fault with
    | refused label message isTransient => exact congrArg (· + 1) herrors
    | other failure =>
        simp only [verdict, concluded, isUnavailable, hother failure hfetched]
        exact herrors
  · exact herrors

end Fetcher

end AirQuality
