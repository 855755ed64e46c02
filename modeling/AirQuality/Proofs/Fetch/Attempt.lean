import AirQuality.Fetch
import AirQuality.Proofs.Fetch.Exchange

/-!
# What a fetch does

A fetch makes attempts.  Each of them first looks at the token and waits for its slot, and then
asks; another one follows, after a delay, if the reply is transient and attempts are left.  Work
that may be cancelled ends where a look or a wait finds the token cancelled.  Until then a wait
changes the clock and the trace and nothing else, and a request is issued in between.
-/

namespace AirQuality

variable {τ : Type}

namespace Token

variable [LE τ] [DecidableLE τ]

/-- A look at a token that is not cancelled changes nothing. -/
theorem eq_of_look {now : τ} {token seen : Token τ} (hlook : token.look now = (false, seen)) :
    seen = token := by
  unfold look at hlook
  split at hlook
  · cases hlook
  · split at hlook
    · cases hlook
    · exact (Prod.mk.inj hlook).2.symm

theorem isSet_of_look {now : τ} {token seen : Token τ} (hlook : token.look now = (true, seen)) :
    seen.isSet = true := by
  unfold look at hlook
  split at hlook
  case isTrue hset => exact (Prod.mk.inj hlook).2 ▸ hset
  case isFalse =>
    split at hlook
    · exact (Prod.mk.inj hlook).2 ▸ rfl
    · cases hlook

end Token

namespace Session

/-- A session later on, when nothing has happened meanwhile but waits. -/
structure Waits (session later : Session τ) (rests : List τ) : Prop where
  token : later.token = none ↔ session.token = none
  lastSuccess : later.lastSuccess = session.lastSuccess
  requestCount : later.requestCount = session.requestCount
  errorCount : later.errorCount = session.errorCount
  trace : later.trace = session.trace ++ rests.map .rested

theorem Waits.refl (session : Session τ) : session.Waits session [] :=
  ⟨.rfl, rfl, rfl, rfl, (List.append_nil _).symm⟩

theorem Waits.trans {session later last : Session τ} {rests others : List τ}
    (hfirst : session.Waits later rests) (hsecond : later.Waits last others) :
    session.Waits last (rests ++ others) where
  token := hsecond.token.trans hfirst.token
  lastSuccess := hsecond.lastSuccess.trans hfirst.lastSuccess
  requestCount := hsecond.requestCount.trans hfirst.requestCount
  errorCount := hsecond.errorCount.trans hfirst.errorCount
  trace := by rw [hsecond.trace, hfirst.trace, List.map_append, List.append_assoc]

theorem waits_note (level : Log.Level) (text : String) (session : Session τ) :
    session.Waits (session.note level text) [] :=
  ⟨.rfl, rfl, rfl, rfl, (List.append_nil _).symm⟩

/-- The token of a session is set. -/
def IsCut (session : Session τ) : Prop := ∃ token, session.token = some token ∧ token.isSet = true

theorem IsCut.token_ne_none {session : Session τ} (hcut : session.IsCut) :
    session.token ≠ none := by
  obtain ⟨token, htoken, -⟩ := hcut
  rw [htoken]
  exact nofun

section Look

variable [LE τ] [DecidableLE τ]

theorem look_of_untokened {session : Session τ} (htoken : session.token = none) :
    session.look = (false, session) := by
  simp only [look, htoken]

theorem look_of_tokened {session : Session τ} {token : Token τ}
    (htoken : session.token = some token) :
    session.look =
      ((token.look session.clock).1,
        { session with token := some (token.look session.clock).2 }) := by
  simp only [look, htoken]

/-- A look at a token that is not cancelled changes nothing. -/
theorem eq_of_look {session later : Session τ} (hlook : session.look = (false, later)) :
    later = session := by
  cases htoken : session.token with
  | none =>
      rw [look_of_untokened htoken] at hlook
      exact (Prod.mk.inj hlook).2.symm
  | some token =>
      rw [look_of_tokened htoken] at hlook
      obtain ⟨hseen, rfl⟩ := Prod.mk.inj hlook
      have hsame : (token.look session.clock).2 = token := Token.eq_of_look (Prod.ext hseen rfl)
      rw [hsame, ← htoken]

/-- A look at a cancelled token sets it and changes nothing else. -/
theorem isCut_of_look {session later : Session τ} (hlook : session.look = (true, later)) :
    later.IsCut ∧ session.Waits later [] := by
  cases htoken : session.token with
  | none =>
      rw [look_of_untokened htoken] at hlook
      cases hlook
  | some token =>
      rw [look_of_tokened htoken] at hlook
      obtain ⟨hseen, rfl⟩ := Prod.mk.inj hlook
      exact ⟨⟨_, rfl, Token.isSet_of_look (Prod.ext hseen rfl)⟩,
        by rw [htoken]; exact iff_of_false nofun nofun, rfl, rfl, rfl, (List.append_nil _).symm⟩

end Look

section Wait

variable [Add τ] [Sub τ] [OfNat τ 0] [LT τ] [DecidableLT τ]

/-- How long a wait takes and when it ends, if the token is not cancelled before it. -/
def restOf (seconds : τ) (session : Session τ) : Token.Rest τ :=
  match session.token with
  | none => ⟨seconds, session.clock + seconds⟩
  | some token => token.rest session.clock seconds

/-- The session after a wait. -/
def waited (seconds : τ) (session : Session τ) : Session τ :=
  session.rested (session.restOf seconds).seconds (session.restOf seconds).clock

theorem waited_of_untokened {session : Session τ} (htoken : session.token = none) (seconds : τ) :
    session.waited seconds = session.rested seconds (session.clock + seconds) := by
  simp only [waited, restOf, htoken]

theorem waits_waited (seconds : τ) (session : Session τ) :
    session.Waits (session.waited seconds) [(session.restOf seconds).seconds] :=
  ⟨.rfl, rfl, rfl, rfl, rfl⟩

variable [LE τ] [DecidableLE τ]

/-- A wait looks at the token before and after it. -/
theorem wait_eq (seconds : τ) (session : Session τ) :
    session.wait seconds =
      if session.look.1 then session.look else (session.waited seconds).look := by
  unfold wait
  cases hlook : session.look with
  | mk isCancelled later =>
      cases isCancelled with
      | true => rfl
      | false =>
          obtain rfl := eq_of_look hlook
          cases htoken : later.token with
          | none =>
              have hwaited : (later.waited seconds).token = none := htoken
              rw [look_of_untokened hwaited]
              simp only [Bool.false_eq_true, if_false, waited, restOf, htoken]
          | some token => simp only [Bool.false_eq_true, if_false, waited, restOf, htoken]

/-- A wait that is not cancelled goes its way. -/
theorem eq_waited_of_wait {seconds : τ} {session later : Session τ}
    (hwait : session.wait seconds = (false, later)) :
    later = session.waited seconds ∧ (session.waited seconds).look.1 = false := by
  rw [wait_eq] at hwait
  split at hwait
  case isTrue hcancelled =>
    rw [hwait] at hcancelled
    cases hcancelled
  case isFalse =>
    rw [hwait]
    exact ⟨eq_of_look hwait, rfl⟩

theorem isCut_of_wait {seconds : τ} {session later : Session τ}
    (hwait : session.wait seconds = (true, later)) :
    later.IsCut ∧ ∃ rests, session.Waits later rests := by
  rw [wait_eq] at hwait
  split at hwait
  case isTrue =>
    obtain ⟨hcut, hwaits⟩ := isCut_of_look hwait
    exact ⟨hcut, [], hwaits⟩
  case isFalse =>
    obtain ⟨hcut, hwaits⟩ := isCut_of_look hwait
    exact ⟨hcut, _, (waits_waited seconds session).trans hwaits⟩

end Wait

end Session

/-! ### Requests -/

namespace Session

variable [Add τ]

/-- A session later on, when one request has been issued meanwhile and nothing else. -/
structure Asks (session later : Session τ) (request : Request) (exchange : Exchange τ) : Prop where
  clock : later.clock = session.clock + exchange.takes
  token : later.token =
    if exchange.cancels then session.token.map Token.cancel else session.token
  lastSuccess : later.lastSuccess =
    if (exchange.reply.payload request.url).isOk then some later.clock else session.lastSuccess
  requestCount : later.requestCount = session.requestCount + 1
  errorCount : later.errorCount = session.errorCount
  trace : later.trace = session.trace ++ [.asked request session.clock exchange]

theorem asked_fields (request : Request) (exchange : Exchange τ) (session : Session τ) :
    let later := session.asked request exchange
    later.clock = session.clock + exchange.takes ∧
      later.token = (if exchange.cancels then session.token.map Token.cancel else session.token) ∧
      later.lastSuccess = session.lastSuccess ∧
      later.requestCount = session.requestCount + 1 ∧
      later.errorCount = session.errorCount ∧
      later.trace = session.trace ++ [.asked request session.clock exchange] := by
  unfold asked
  cases exchange.cancels with
  | true => exact ⟨rfl, rfl, rfl, rfl, rfl, rfl⟩
  | false => exact ⟨rfl, rfl, rfl, rfl, rfl, rfl⟩

end Session

namespace Fetcher

variable {α β : Type}

theorem bind_apply (work : Attempt τ α) (next : α → Attempt τ β) (session : Session τ) :
    (work >>= next) session =
      match work session with
      | (.ok value, later) => next value later
      | (.error fault, later) => (.error fault, later) := by
  simp only [bind, ExceptT.bind, ExceptT.mk, StateT.bind, ExceptT.bindCont]
  cases work session with
  | mk outcome later =>
      cases outcome with
      | ok value => rfl
      | error fault => rfl

/-- A request brings what its reply holds, and is the one thing that happens meanwhile. -/
theorem ask_spec [Add τ] (fetcher : Fetcher τ) (remote : Remote τ) (request : Request)
    (session : Session τ) :
    (fetcher.ask remote request session).1 =
        (remote session.requests request).reply.payload request.url ∧
      session.Asks (fetcher.ask remote request session).2 request
        (remote session.requests request) := by
  unfold ask
  simp only
  generalize remote session.requests request = exchange
  obtain ⟨hclock, htoken, hlast, hcount, herrors, htrace⟩ := Session.asked_fields request exchange
    (session.note .debug s!"{fetcher.source}: GET {request.url} params={parametersText request}")
  cases hpayload : exchange.reply.payload request.url with
  | ok payload =>
      refine ⟨rfl, ?_⟩
      simp only
      split
      · exact ⟨hclock, htoken, by rw [hpayload]; rfl, hcount, herrors, htrace⟩
      · exact ⟨hclock, htoken, by rw [hpayload]; rfl, hcount, herrors, htrace⟩
  | error fault =>
      cases fault with
      | refused label message isTransient =>
          exact ⟨rfl, hclock, htoken, by rw [hpayload]; exact hlast, hcount, herrors, htrace⟩
      | other failure =>
          exact ⟨rfl, hclock, htoken, by rw [hpayload]; exact hlast, hcount, herrors, htrace⟩

/-! ### Waits -/

section Waits

variable [Add τ] [Sub τ] [OfNat τ 0] [LT τ] [LE τ] [DecidableLT τ] [DecidableLE τ] [TimeText τ]

theorem eq_waited_of_pause {fetcher : Fetcher τ} {seconds : τ} {session later : Session τ}
    (hpause : fetcher.pause seconds session = (.ok (), later)) :
    later = session.waited seconds ∧ later.look.1 = false := by
  unfold pause at hpause
  split at hpause
  case h_1 waited hwait =>
    obtain ⟨hwaited, hlook⟩ := Session.eq_waited_of_wait hwait
    obtain rfl := (Prod.mk.inj hpause).2
    exact ⟨hwaited, hwaited ▸ hlook⟩
  case h_2 => cases hpause

/-- Work that ends because its token is cancelled has done nothing but wait. -/
def Halts (session : Session τ) (fault : AttemptFault) (cut : Session τ) : Prop :=
  (∃ message, fault = .other (.cancelled message)) ∧ cut.IsCut ∧ ∃ rests, session.Waits cut rests

theorem halts_of_pause {fetcher : Fetcher τ} {seconds : τ} {session cut : Session τ}
    {fault : AttemptFault} (hpause : fetcher.pause seconds session = (.error fault, cut)) :
    Halts session fault cut := by
  unfold pause at hpause
  split at hpause
  case h_1 => cases hpause
  case h_2 waited hwait =>
    obtain ⟨hfault, rfl⟩ := Prod.mk.inj hpause
    cases hfault
    exact ⟨⟨_, rfl⟩, Session.isCut_of_wait hwait⟩

/-- What is missing of the interval since the last success, if anything is. -/
def missing? (fetcher : Fetcher τ) (session : Session τ) : Option τ :=
  match session.lastSuccess with
  | none => none
  | some last =>
    if session.clock - last < fetcher.minInterval then
      some (fetcher.minInterval - (session.clock - last))
    else none

omit [Add τ] [OfNat τ 0] [LE τ] [DecidableLE τ] [TimeText τ] in
theorem missing?_eq_some {fetcher : Fetcher τ} {session : Session τ} {missing : τ}
    (hmissing : fetcher.missing? session = some missing) :
    ∃ last, session.lastSuccess = some last ∧ session.clock - last < fetcher.minInterval ∧
      missing = fetcher.minInterval - (session.clock - last) := by
  unfold missing? at hmissing
  split at hmissing
  · cases hmissing
  case h_2 last hlast =>
    split at hmissing
    case isTrue hearly => exact ⟨last, hlast, hearly, (Option.some.inj hmissing).symm⟩
    case isFalse => cases hmissing

omit [Add τ] [OfNat τ 0] [LE τ] [DecidableLE τ] [TimeText τ] in
theorem missing?_eq_none {fetcher : Fetcher τ} {session : Session τ} {last : τ}
    (hmissing : fetcher.missing? session = none) (hlast : session.lastSuccess = some last) :
    ¬session.clock - last < fetcher.minInterval := by
  intro hearly
  unfold missing? at hmissing
  rw [hlast] at hmissing
  simp only [if_pos hearly] at hmissing
  cases hmissing

def slotText (fetcher : Fetcher τ) (missing : τ) : String :=
  s!"{fetcher.source}: rate limiting, waiting {TimeText.fixed missing}s"

/-- The session when its slot has come. -/
def slot (fetcher : Fetcher τ) (session : Session τ) : Session τ :=
  match fetcher.missing? session with
  | none => session
  | some missing => (session.note .debug (fetcher.slotText missing)).waited missing

omit [LE τ] [DecidableLE τ] in
theorem slot_of_passed {fetcher : Fetcher τ} {session : Session τ}
    (hmissing : fetcher.missing? session = none) : fetcher.slot session = session := by
  unfold slot
  rw [hmissing]

omit [LE τ] [DecidableLE τ] in
theorem slot_of_missing {fetcher : Fetcher τ} {session : Session τ} {missing : τ}
    (hmissing : fetcher.missing? session = some missing) :
    fetcher.slot session = (session.note .debug (fetcher.slotText missing)).waited missing := by
  unfold slot
  rw [hmissing]

theorem waitForSlot_eq (fetcher : Fetcher τ) (session : Session τ) :
    fetcher.waitForSlot session =
      match fetcher.missing? session with
      | none => (.ok (), session)
      | some missing =>
        fetcher.pause missing (session.note .debug (fetcher.slotText missing)) := by
  unfold waitForSlot missing?
  cases session.lastSuccess with
  | none => rfl
  | some last =>
      simp only
      split
      · rfl
      · rfl

/-- What an attempt does before it asks. -/
def approach (fetcher : Fetcher τ) : Attempt τ Unit := do
  checkToken
  fetcher.waitForSlot

theorem approach_eq (fetcher : Fetcher τ) (session : Session τ) :
    fetcher.approach session =
      match session.look with
      | (true, cut) => (.error (.other (.cancelled Session.cancelledText)), cut)
      | (false, _) => fetcher.waitForSlot session := by
  unfold approach
  rw [bind_apply]
  unfold checkToken Session.checkToken
  cases hlook : session.look with
  | mk isCancelled later =>
      cases isCancelled with
      | true => rfl
      | false =>
          obtain rfl := Session.eq_of_look hlook
          rfl

theorem eq_slot_of_approach {fetcher : Fetcher τ} {session ready : Session τ}
    (happroach : fetcher.approach session = (.ok (), ready)) :
    ready = fetcher.slot session ∧ ready.look.1 = false := by
  rw [approach_eq] at happroach
  split at happroach
  case h_1 => cases happroach
  case h_2 same hlook =>
    rw [waitForSlot_eq] at happroach
    unfold slot
    cases hmissing : fetcher.missing? session with
    | none =>
        rw [hmissing] at happroach
        obtain rfl := (Prod.mk.inj happroach).2
        exact ⟨rfl, by rw [hlook]⟩
    | some missing =>
        rw [hmissing] at happroach
        exact eq_waited_of_pause happroach

theorem halts_of_approach {fetcher : Fetcher τ} {session cut : Session τ} {fault : AttemptFault}
    (happroach : fetcher.approach session = (.error fault, cut)) : Halts session fault cut := by
  rw [approach_eq] at happroach
  split at happroach
  case h_1 seen hlook =>
    obtain ⟨hfault, rfl⟩ := Prod.mk.inj happroach
    cases hfault
    obtain ⟨hcut, hwaits⟩ := Session.isCut_of_look hlook
    exact ⟨⟨_, rfl⟩, hcut, [], hwaits⟩
  case h_2 =>
    rw [waitForSlot_eq] at happroach
    split at happroach
    case h_1 => cases happroach
    case h_2 missing hmissing =>
      obtain ⟨hfault, hcut, rests, hwaits⟩ := halts_of_pause happroach
      exact ⟨hfault, hcut, rests, (Session.waits_note _ _ session).trans hwaits⟩

omit [LE τ] [DecidableLE τ] in
theorem exists_waits_slot (fetcher : Fetcher τ) (session : Session τ) :
    ∃ rests, session.Waits (fetcher.slot session) rests := by
  unfold slot
  split
  case h_1 => exact ⟨[], Session.Waits.refl session⟩
  case h_2 missing hmissing =>
    exact ⟨_, (Session.waits_note _ _ session).trans (Session.waits_waited missing _)⟩

end Waits

/-! ### Attempts in a row -/

variable [Add τ] [Sub τ] [OfNat τ 0] [LT τ] [LE τ] [DecidableLT τ] [DecidableLE τ] [TimeText τ]

theorem attempt_eq (fetcher : Fetcher τ) (remote : Remote τ) (request : Request)
    (session : Session τ) :
    fetcher.attempt remote request session =
      match fetcher.approach session with
      | (.ok (), ready) => fetcher.ask remote request ready
      | (.error fault, cut) => (.error fault, cut) := by
  have hassoc : fetcher.attempt remote request =
      fetcher.approach >>= fun _ => fetcher.ask remote request := by
    unfold attempt approach
    exact (bind_assoc _ _ _).symm
  rw [hassoc, bind_apply]
  cases fetcher.approach session with
  | mk outcome ready =>
      cases outcome with
      | ok done => rfl
      | error fault => rfl

/-- A request that is refused for the time being is tried again after the delay. -/
theorem attempts_succ_of_refused {fetcher : Fetcher τ} {remote : Remote τ} {request : Request}
    {found refused : Session τ} {label message : String}
    (hattempt : fetcher.attempt remote request found =
      (.error (.refused label message true), refused)) (more : Nat) :
    fetcher.attempts remote request (more + 1) found =
      match fetcher.pause fetcher.retryDelay
        (refused.note .warning (fetcher.retryText label message)) with
      | (.ok (), rested) => fetcher.attempts remote request more rested
      | (.error fault, cut) => (.error fault, cut) := by
  simp only [attempts, hattempt]
  rw [bind_apply]
  simp only [note]
  rw [bind_apply]
  cases fetcher.pause fetcher.retryDelay
      (refused.note .warning (fetcher.retryText label message)) with
  | mk outcome rested =>
      cases outcome with
      | ok done => rfl
      | error fault => rfl

/-- Any other outcome of an attempt is final. -/
theorem attempts_of_settled {fetcher : Fetcher τ} {remote : Remote τ} {request : Request}
    {found left : Session τ} {outcome : Except AttemptFault Json}
    (hattempt : fetcher.attempt remote request found = (outcome, left)) {more : Nat}
    (hsettled : more = 0 ∨ ∀ fault, outcome = .error fault → ¬fault.IsTransient) :
    fetcher.attempts remote request more found = (outcome, left) := by
  cases more with
  | zero => exact hattempt
  | succ more =>
      rcases hsettled with hzero | hsettled
      · cases hzero
      · simp only [attempts, hattempt]
        split
        case h_1 label message session hrefused =>
          exact absurd rfl (hsettled _ (Prod.mk.inj hrefused).1)
        case h_2 => rfl

theorem attempt_of_approach {fetcher : Fetcher τ} {found ready : Session τ}
    (happroach : fetcher.approach found = (.ok (), ready)) (remote : Remote τ)
    (request : Request) :
    fetcher.attempt remote request found = fetcher.ask remote request (fetcher.slot found) := by
  rw [attempt_eq, happroach, ← (eq_slot_of_approach happroach).1]

theorem attempts_of_halted {fetcher : Fetcher τ} {found cut : Session τ} {fault : AttemptFault}
    (happroach : fetcher.approach found = (.error fault, cut)) (remote : Remote τ)
    (request : Request) (more : Nat) :
    fetcher.attempts remote request more found = (.error fault, cut) := by
  apply attempts_of_settled (by rw [attempt_eq, happroach])
  obtain ⟨⟨message, rfl⟩, -⟩ := halts_of_approach happroach
  exact .inr fun other hother htransient => by
    cases hother
    exact htransient

/-- How a request may be tried, with so many attempts left after the first: from the session
found to the outcome and the session left.  The work is cancelled before it asks or while it waits
for another attempt, or the reply settles it, or another attempt follows. -/
inductive Attempts (fetcher : Fetcher τ) (remote : Remote τ) (request : Request) :
    (more : Nat) → (found : Session τ) → Except AttemptFault Json → (left : Session τ) → Prop
  | halted {more : Nat} {found cut : Session τ} {fault : AttemptFault}
      (happroach : fetcher.approach found = (.error fault, cut)) :
      Attempts fetcher remote request more found (.error fault) cut
  | settled {more : Nat} {found left : Session τ} {outcome : Except AttemptFault Json}
      (happroach : fetcher.approach found = (.ok (), fetcher.slot found))
      (hask : fetcher.ask remote request (fetcher.slot found) = (outcome, left))
      (hsettled : more = 0 ∨ ∀ fault, outcome = .error fault → ¬fault.IsTransient) :
      Attempts fetcher remote request more found outcome left
  | haltedAgain {more : Nat} {found refused cut : Session τ} {label message : String}
      {fault : AttemptFault}
      (happroach : fetcher.approach found = (.ok (), fetcher.slot found))
      (hask : fetcher.ask remote request (fetcher.slot found) =
        (.error (.refused label message true), refused))
      (hpause : fetcher.pause fetcher.retryDelay
        (refused.note .warning (fetcher.retryText label message)) = (.error fault, cut)) :
      Attempts fetcher remote request (more + 1) found (.error fault) cut
  | again {more : Nat} {found refused rested left : Session τ} {label message : String}
      {outcome : Except AttemptFault Json}
      (happroach : fetcher.approach found = (.ok (), fetcher.slot found))
      (hask : fetcher.ask remote request (fetcher.slot found) =
        (.error (.refused label message true), refused))
      (hpause : fetcher.pause fetcher.retryDelay
        (refused.note .warning (fetcher.retryText label message)) = (.ok (), rested))
      (hmore : Attempts fetcher remote request more rested outcome left) :
      Attempts fetcher remote request (more + 1) found outcome left

/-- Trying a request does nothing else. -/
theorem attempts_attempts (fetcher : Fetcher τ) (remote : Remote τ) (request : Request)
    (more : Nat) (found : Session τ) :
    Attempts fetcher remote request more found (fetcher.attempts remote request more found).1
      (fetcher.attempts remote request more found).2 := by
  induction more generalizing found with
  | zero =>
      rcases happroach : fetcher.approach found with ⟨fault | done, ready⟩
      · rw [attempts_of_halted happroach]
        exact .halted happroach
      · rw [attempts_of_settled (attempt_of_approach happroach remote request) (.inl rfl)]
        exact .settled ((eq_slot_of_approach happroach).1 ▸ happroach) rfl (.inl rfl)
  | succ more ih =>
      rcases happroach : fetcher.approach found with ⟨fault | done, ready⟩
      · rw [attempts_of_halted happroach]
        exact .halted happroach
      · have hattempt := attempt_of_approach happroach remote request
        rw [(eq_slot_of_approach happroach).1] at happroach
        rcases hask : fetcher.ask remote request (fetcher.slot found) with ⟨outcome, asked⟩
        rw [hask] at hattempt
        by_cases hrefused : ∃ label message, outcome = .error (.refused label message true)
        · obtain ⟨label, message, rfl⟩ := hrefused
          rw [attempts_succ_of_refused hattempt]
          rcases hpause : fetcher.pause fetcher.retryDelay
            (asked.note .warning (fetcher.retryText label message)) with ⟨fault | done, rested⟩
          · exact .haltedAgain happroach hask hpause
          · exact .again happroach hask hpause (ih rested)
        · have hsettled : ∀ fault, outcome = .error fault → ¬fault.IsTransient := by
            rintro fault rfl htransient
            cases fault with
            | refused label message isTransient =>
                exact hrefused ⟨label, message, congrArg _ (congrArg _ htransient)⟩
            | other failure => exact htransient
          rw [attempts_of_settled hattempt (.inr hsettled)]
          exact .settled happroach hask (.inr hsettled)

end Fetcher

end AirQuality
