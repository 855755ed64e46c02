import AirQuality.Proofs.Fetch.Desk
import AirQuality.Proofs.Fetch.ExactTime
import Mathlib.Data.List.Chain

/-!
# The pace of requests

However many callers share a fetcher, whichever of them are cancelled and whatever the provider
does, a request is issued no earlier than the least interval after the last success, and another
attempt no earlier than the delay after the one it follows.  A caller without a token waits no
longer than that either.
-/

namespace AirQuality

variable {τ : Type} [AddCommGroup τ] [LinearOrder τ] [IsOrderedAddMonoid τ] [TimeText τ]

namespace Fetcher

/-! ### The least interval -/

/-- A request issued in its slot keeps the least interval. -/
theorem keepInterval_asks {fetcher : Fetcher τ} {session later : Session τ}
    {request : Request} {exchange : Exchange τ} (hcounted : session.IsCounted)
    (hkeep : Asking.KeepInterval fetcher.minInterval session.askings)
    (hready : fetcher.IsReady session) (hasks : session.Asks later request exchange) :
    Asking.KeepInterval fetcher.minInterval later.askings := by
  obtain ⟨⟨found, rfl⟩, hlook⟩ := hready
  rw [hasks.askings_eq]
  apply hkeep.append_singleton
  intro last hlast
  have hsuccess : (fetcher.slot found).lastSuccess = some last.completed := by
    rw [hcounted.lastSuccess, hlast]
    rfl
  obtain ⟨rests, hwaits⟩ := fetcher.exists_waits_slot found
  exact last_add_le_slot hlook (hwaits.lastSuccess.symm.trans hsuccess)

/-- A fetch keeps the least interval, to what came before it and within itself. -/
theorem keepInterval_fetch (fetcher : Fetcher τ) (remote : Remote τ) (request : Request)
    {found : Session τ} (hcounted : found.IsCounted)
    (hkeep : Asking.KeepInterval fetcher.minInterval found.askings) :
    Asking.KeepInterval fetcher.minInterval (fetcher.fetch remote request found).2.askings := by
  have hattempts := fetcher.attempts_attempts remote request fetcher.retries found
  have hboth := hattempts.preserve
    (P := fun session => session.IsCounted ∧
      Asking.KeepInterval fetcher.minInterval session.askings)
    (fun _ _ _ ⟨hcounted, hkeep⟩ hwaits =>
      ⟨hcounted.waits hwaits, by rwa [hwaits.askings_eq]⟩)
    (fun _ _ _ ⟨hcounted, hkeep⟩ hready hasks =>
      ⟨hcounted.asks hasks, keepInterval_asks hcounted hkeep hready hasks⟩)
    ⟨hcounted, hkeep⟩
  unfold Session.askings
  rw [fetch_eq, concluded_trace]
  exact hboth.2

/-! ### The delay -/

namespace Attempts

variable {fetcher : Fetcher τ} {remote : Remote τ} {request : Request} {more : Nat}
  {found left : Session τ} {outcome : Except AttemptFault Json}

/-- An attempt that is not cancelled issues one request, no earlier than it begins. -/
theorem exists_asking {asked : Session τ}
    (happroach : fetcher.approach found = (.ok (), fetcher.slot found))
    (hask : fetcher.ask remote request (fetcher.slot found) = (outcome, asked)) :
    ∃ asking : Asking τ, asked.askings = found.askings ++ [asking] ∧
      found.clock ≤ asking.issued ∧ asked.clock = asking.completed := by
  obtain ⟨-, hasks⟩ := asks_slot hask
  obtain ⟨rests, hslot⟩ := fetcher.exists_waits_slot found
  refine ⟨⟨request, (fetcher.slot found).clock, remote found.requests request⟩, ?_, ?_, hasks.clock⟩
  · rw [hasks.askings_eq, hslot.askings_eq]
  · exact clock_le_slot (eq_slot_of_approach happroach).2

/-- The requests of some attempts keep the delay, and none of them is issued before the first
attempt begins. -/
theorem keepDelay (hattempts : Attempts fetcher remote request more found outcome left) :
    ∃ askings, left.askings = found.askings ++ askings ∧
      Asking.KeepDelay fetcher.retryDelay askings ∧
      ∀ first ∈ askings.head?, found.clock ≤ first.issued := by
  induction hattempts with
  | halted happroach =>
      obtain ⟨-, -, rests, hhalted⟩ := halts_of_approach happroach
      exact ⟨[], by rw [hhalted.askings_eq, List.append_nil], .nil, by simp⟩
  | settled happroach hask hsettled =>
      obtain ⟨asking, hasked, hissued, -⟩ := exists_asking happroach hask
      exact ⟨[asking], hasked, .singleton asking, by simpa using hissued⟩
  | haltedAgain happroach hask hpause =>
      obtain ⟨asking, hasked, hissued, -⟩ := exists_asking happroach hask
      obtain ⟨-, -, rests, hhalted⟩ := halts_of_pause hpause
      refine ⟨[asking], ?_, .singleton asking, by simpa using hissued⟩
      rw [hhalted.askings_eq, (Session.waits_note _ _ _).askings_eq, hasked]
  | again happroach hask hpause hmore ih =>
      obtain ⟨asking, hasked, hissued, hcompleted⟩ := exists_asking happroach hask
      obtain ⟨rfl, hlook⟩ := eq_waited_of_pause hpause
      obtain ⟨askings, hleft, hdelay, hfirst⟩ := ih
      have hrested := Session.clock_add_le_waited hlook
      refine ⟨asking :: askings, ?_, ?_, by simpa using hissued⟩
      · rw [hleft, (Session.waits_waited _ _).askings_eq, (Session.waits_note _ _ _).askings_eq,
          hasked, List.append_assoc]
        rfl
      · refine hdelay.cons fun next hnext => ?_
        rw [← hcompleted]
        exact hrested.trans (hfirst next hnext)

end Attempts

theorem keepDelay_fetch (fetcher : Fetcher τ) (remote : Remote τ) (request : Request)
    (found : Session τ) :
    ∃ askings, (fetcher.fetch remote request found).2.askings = found.askings ++ askings ∧
      Asking.KeepDelay fetcher.retryDelay askings := by
  have hattempts := fetcher.attempts_attempts remote request fetcher.retries found
  obtain ⟨askings, hleft, hdelay, -⟩ := hattempts.keepDelay
  refine ⟨askings, ?_, hdelay⟩
  rw [← hleft]
  unfold Session.askings
  rw [fetch_eq, concluded_trace]

/-! ### Without a token -/

/-- The waits before a request: what is missing of the interval since the last success, and none if
nothing is. -/
def slotRests (fetcher : Fetcher τ) (last : Option τ) (now : τ) : List τ :=
  match last with
  | none => []
  | some last => if last + fetcher.minInterval ≤ now then [] else [last + fetcher.minInterval - now]

/-- What happens, from some time on, in a fetch that waits no longer than it has to: the request is
issued in its slot, and the delay stands between one attempt and the next. -/
inductive Paced (fetcher : Fetcher τ) (request : Request) (last : Option τ) :
    τ → List (Event τ) → Prop
  | final (now : τ) (exchange : Exchange τ) :
      Paced fetcher request last now
        ((fetcher.slotRests last now).map .rested ++
          [.asked request (now + (fetcher.slotRests last now).sum) exchange])
  | again (now : τ) (exchange : Exchange τ) {events : List (Event τ)}
      (hmore : Paced fetcher request last
        (now + (fetcher.slotRests last now).sum + exchange.takes + fetcher.retryDelay) events) :
      Paced fetcher request last now
        ((fetcher.slotRests last now).map .rested ++
          .asked request (now + (fetcher.slotRests last now).sum) exchange ::
            .rested fetcher.retryDelay :: events)

/-- Without a token, the slot comes after exactly the waits that are missing. -/
theorem slot_of_untokened (fetcher : Fetcher τ) {session : Session τ}
    (htoken : session.token = none) :
    (fetcher.slot session).trace =
        session.trace ++ (fetcher.slotRests session.lastSuccess session.clock).map .rested ∧
      (fetcher.slot session).clock =
        session.clock + (fetcher.slotRests session.lastSuccess session.clock).sum := by
  cases hmissing : fetcher.missing? session with
  | none =>
      have hnone : fetcher.slotRests session.lastSuccess session.clock = [] := by
        cases hlast : session.lastSuccess with
        | none => rfl
        | some last =>
            have hpassed := not_lt.mp (missing?_eq_none hmissing hlast)
            exact if_pos (le_sub_iff_add_le'.mp hpassed)
      rw [slot_of_passed hmissing, hnone]
      exact ⟨(List.append_nil _).symm, (add_zero _).symm⟩
  | some missing =>
      obtain ⟨last, hlast, hearly, hvalue⟩ := missing?_eq_some hmissing
      have hrests : fetcher.slotRests session.lastSuccess session.clock = [missing] := by
        have hmissed : ¬last + fetcher.minInterval ≤ session.clock := fun hpassed =>
          hearly.not_ge (le_sub_iff_add_le'.mpr hpassed)
        have hsame : last + fetcher.minInterval - session.clock = missing := by
          rw [hvalue]
          abel
        rw [hlast, ← hsame]
        exact if_neg hmissed
      have hnoted : (session.note .debug (fetcher.slotText missing)).token = none := htoken
      rw [slot_of_missing hmissing, Session.waited_of_untokened hnoted, hrests,
        List.sum_singleton]
      exact ⟨rfl, rfl⟩

/-- Attempts without a token wait exactly as long as they have to. -/
theorem Attempts.paced {fetcher : Fetcher τ} {remote : Remote τ} {request : Request} {more : Nat}
    {found left : Session τ} {outcome : Except AttemptFault Json}
    (hattempts : Attempts fetcher remote request more found outcome left)
    (htoken : found.token = none) :
    ∃ events, left.trace = found.trace ++ events ∧
      Paced fetcher request found.lastSuccess found.clock events := by
  induction hattempts with
  | halted happroach =>
      obtain ⟨-, hcut, rests, hhalted⟩ := halts_of_approach happroach
      exact absurd (hhalted.token.mpr htoken) hcut.token_ne_none
  | @settled more found left outcome happroach hask hsettled =>
      obtain ⟨-, hasks⟩ := asks_slot hask
      obtain ⟨htrace, hclock⟩ := fetcher.slot_of_untokened htoken
      refine ⟨_, ?_, .final found.clock (remote found.requests request)⟩
      rw [hasks.trace, htrace, hclock, List.append_assoc]
  | @haltedAgain more found refused cut label message fault happroach hask hpause =>
      obtain ⟨-, hasks⟩ := asks_slot hask
      obtain ⟨rests, hslot⟩ := fetcher.exists_waits_slot found
      obtain ⟨-, hcut, others, hhalted⟩ := halts_of_pause hpause
      have hrefused := hasks.token_eq_none_iff.mpr (hslot.token.mpr htoken)
      exact absurd (hhalted.token.mpr hrefused) hcut.token_ne_none
  | @again more found refused rested left label message outcome happroach hask hpause hmore ih =>
      obtain ⟨houtcome, hasks⟩ := asks_slot hask
      obtain ⟨rests, hslot⟩ := fetcher.exists_waits_slot found
      obtain ⟨htrace, hclock⟩ := fetcher.slot_of_untokened htoken
      obtain ⟨rfl, -⟩ := eq_waited_of_pause hpause
      have hrefused : (refused.note .warning (fetcher.retryText label message)).token = none :=
        hasks.token_eq_none_iff.mpr (hslot.token.mpr htoken)
      have hlast : refused.lastSuccess = found.lastSuccess := by
        rw [hasks.lastSuccess, ← houtcome]
        exact hslot.lastSuccess
      rw [Session.waited_of_untokened hrefused] at ih
      obtain ⟨events, hleft, hpaced⟩ := ih hrefused
      change Paced fetcher request refused.lastSuccess (refused.clock + fetcher.retryDelay)
        events at hpaced
      rw [hlast, hasks.clock, hclock] at hpaced
      refine ⟨_, ?_, .again found.clock (remote found.requests request) hpaced⟩
      rw [hleft]
      change (refused.trace ++ [.rested fetcher.retryDelay]) ++ events = _
      rw [hasks.trace, htrace, hclock]
      simp only [List.append_assoc, List.cons_append, List.nil_append]

theorem paced_fetch (fetcher : Fetcher τ) (remote : Remote τ) (request : Request)
    {found : Session τ} (htoken : found.token = none) :
    ∃ events, (fetcher.fetch remote request found).2.trace = found.trace ++ events ∧
      Paced fetcher request found.lastSuccess found.clock events := by
  have hattempts := fetcher.attempts_attempts remote request fetcher.retries found
  rw [fetch_eq, concluded_trace]
  exact hattempts.paced htoken

end Fetcher

namespace Desk

/-- A run keeps its pace.  Each request is issued at least the least interval after the last
success before it, whoever had that and whatever happened in between; the attempts of one fetch
keep the delay; and a fetch without a token waits for exactly what is missing of the two. -/
theorem run_keeps_pace (fetcher : Fetcher τ) (remote : Remote τ) (clock : τ)
    (acts : List (Act τ)) :
    Asking.KeepInterval fetcher.minInterval
        (run fetcher remote acts (start clock)).session.askings ∧
      ∀ seen ∈ visits fetcher remote acts (start clock),
        (∃ askings, seen.left.askings = seen.found.askings ++ askings ∧
          Asking.KeepDelay fetcher.retryDelay askings) ∧
        (seen.found.token = none →
          ∃ events, seen.left.trace = seen.found.trace ++ events ∧
            fetcher.Paced seen.request
              ((Asking.lastSuccess? seen.found.askings).map Asking.completed)
              seen.found.clock events) := by
  have hstart : (start clock).session.IsCounted := ⟨rfl, rfl⟩
  constructor
  · have hfirst : (start clock).session.IsCounted ∧
        Asking.KeepInterval fetcher.minInterval (start clock).session.askings :=
      ⟨hstart, Asking.keepInterval_nil _⟩
    have hboth := run_preserves fetcher remote
      (P := fun session => session.IsCounted ∧
        Asking.KeepInterval fetcher.minInterval session.askings)
      (fun _ _ _ hsession => ⟨⟨hsession.1.requestCount, hsession.1.lastSuccess⟩, hsession.2⟩)
      (fun request session hsession =>
        ⟨fetcher.isCounted_fetch remote request session hsession.1,
          fetcher.keepInterval_fetch remote request hsession.1 hsession.2⟩)
      acts hfirst
    exact hboth.2
  · intro seen hseen
    obtain ⟨earlier, name, request, later, -, rfl⟩ := exists_of_mem_visits fetcher remote hseen
    have hcounted := isCounted_run fetcher remote earlier hstart
    generalize run fetcher remote earlier (start clock) = desk at hcounted
    refine ⟨fetcher.keepDelay_fetch remote request (desk.foundBy name), fun htoken => ?_⟩
    have hlast : (desk.foundBy name).lastSuccess =
        (Asking.lastSuccess? (desk.foundBy name).askings).map Asking.completed :=
      hcounted.lastSuccess
    have hpaced := fetcher.paced_fetch remote request htoken
    change ∃ events, _ ∧ fetcher.Paced request (desk.foundBy name).lastSuccess
      (desk.foundBy name).clock events at hpaced
    rwa [hlast] at hpaced

/-- A fetcher that leaves three seconds after a success and five after a transient reply. -/
def patient : Fetcher ℤ := ⟨"GIOS", 3, 2, 5, .whole 30⟩

/-- A provider that is overloaded at first. -/
def overloaded : Remote ℤ := .ofList [
  ⟨.answer 503 "Service Unavailable" (.text ""), 1, false⟩,
  ⟨.answer 200 "OK" (.value .null), 2, false⟩,
  ⟨.answer 200 "OK" (.value .null), 1, false⟩]

/-- Two fetches one second apart. -/
def twoFetches : List (Act ℤ) :=
  [.fetch "reader" ⟨"stations", none⟩, .pass 1, .fetch "reader" ⟨"stations", none⟩]

theorem run_keeps_pace_overloaded :
    Asking.KeepInterval 3 (run patient overloaded twoFetches (start 0)).session.askings ∧
      (run patient overloaded twoFetches (start 0)).session.rests = [5, 2] ∧
      (run patient overloaded twoFetches (start 0)).session.askings.map (·.issued) =
        [0, 6, 11] :=
  ⟨(run_keeps_pace patient overloaded 0 twoFetches).1, by decide, by decide⟩

end Desk

end AirQuality
