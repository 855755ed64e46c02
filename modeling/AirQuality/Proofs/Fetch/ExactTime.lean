import AirQuality.Proofs.Fetch.Attempt
import Mathlib.Algebra.Order.Group.Defs
import Mathlib.Algebra.Order.Group.Int
import Mathlib.Tactic.Abel

/-!
# Waits in exact time

Where times are the elements of an ordered group, a wait that is not cancelled lasts as long as it
was asked to, with a token or without: neither a deadline nor a cancellation can cut it short
without showing at its end.  So a slot comes exactly when the interval since the last success has
passed.
-/

namespace AirQuality

/-- Whole seconds. -/
instance : TimeText ℤ where
  fixed seconds := s!"{seconds}.00"
  brief seconds := toString seconds

variable {τ : Type} [AddCommGroup τ] [LinearOrder τ] [IsOrderedAddMonoid τ]

namespace Token

omit [IsOrderedAddMonoid τ] in
theorem positivePart_eq_max (time : τ) : positivePart time = max 0 time := by
  unfold positivePart
  split
  case isTrue hpositive => exact (max_eq_right hpositive.le).symm
  case isFalse hpositive => exact (max_eq_left (not_lt.mp hpositive)).symm

omit [AddCommGroup τ] [IsOrderedAddMonoid τ] in
theorem isDue_eq_false {token : Token τ} {now : τ} (hundue : token.isDue now = false) :
    (∀ deadline, token.deadline = some deadline → now < deadline) ∧
      ∀ moment, token.cancelAt = some moment → now < moment := by
  unfold isDue at hundue
  obtain ⟨hdeadline, hmoment⟩ := Bool.or_eq_false_iff.mp hundue
  constructor
  · intro deadline hsome
    rw [hsome] at hdeadline
    exact not_le.mp (decide_eq_false_iff_not.mp hdeadline)
  · intro moment hsome
    rw [hsome] at hmoment
    exact not_le.mp (decide_eq_false_iff_not.mp hmoment)

/-- A deadline that is still to come after the wait has not shortened it. -/
theorem allowance_of_undue {token : Token τ} {now seconds : τ}
    (hundue : ∀ deadline, token.deadline = some deadline →
      now + token.allowance now seconds < deadline) :
    token.allowance now seconds = max 0 seconds := by
  unfold allowance remaining at hundue ⊢
  cases hdeadline : token.deadline with
  | none => exact positivePart_eq_max seconds
  | some deadline =>
      rw [hdeadline] at hundue
      have hbefore := hundue deadline rfl
      simp only [Option.map_some, earlier, positivePart_eq_max] at hbefore ⊢
      split at hbefore
      case isTrue hshort =>
        -- The wait would end at the deadline or after it.
        rw [max_eq_right (le_max_left _ _)] at hbefore
        have hlong : deadline ≤ now + max 0 (deadline - now) :=
          sub_le_iff_le_add'.mp (le_max_right _ _)
        exact absurd hbefore (not_lt.mpr hlong)
      case isFalse hlong => rw [if_neg hlong]

/-- A wait on a token that is not due at its end has lasted as long as it was asked to. -/
theorem rest_of_undue {token : Token τ} {now seconds : τ}
    (hundue : token.isDue (token.rest now seconds).clock = false) :
    token.rest now seconds = ⟨max 0 seconds, now + max 0 seconds⟩ := by
  obtain ⟨hdeadline, hmoment⟩ := isDue_eq_false hundue
  have hclock : (token.rest now seconds).clock = now + token.allowance now seconds := by
    unfold rest at hmoment ⊢
    cases hcancel : token.cancelAt with
    | none => rfl
    | some moment =>
        rw [hcancel] at hmoment
        have hbefore := hmoment moment rfl
        simp only [earlier] at hbefore ⊢
        split at hbefore
        case isTrue => exact absurd hbefore (lt_irrefl moment)
        case isFalse hlate => exact if_neg hlate
  have hallowance : token.allowance now seconds = max 0 seconds :=
    allowance_of_undue fun deadline hsome => hclock ▸ hdeadline deadline hsome
  have hseconds : (token.rest now seconds).seconds = (token.rest now seconds).clock - now := rfl
  calc token.rest now seconds
      = ⟨(token.rest now seconds).seconds, (token.rest now seconds).clock⟩ := rfl
    _ = ⟨max 0 seconds, now + max 0 seconds⟩ := by
      rw [hseconds, hclock, hallowance, add_sub_cancel_left]

end Token

namespace Session

/-- The session as it is for a caller without a token. -/
def withoutToken (session : Session τ) : Session τ := { session with token := none }

/-- A wait that is not cancelled lasts as long as it was asked to. -/
theorem restOf_of_uncancelled {seconds : τ} {session : Session τ}
    (hlook : (session.waited seconds).look.1 = false) :
    session.restOf seconds = ⟨seconds, session.clock + seconds⟩ ∨
      session.restOf seconds = ⟨max 0 seconds, session.clock + max 0 seconds⟩ := by
  cases htoken : session.token with
  | none =>
      left
      simp only [restOf, htoken]
  | some token =>
      right
      have hwaited : (session.waited seconds).token = some token := htoken
      have hrest : session.restOf seconds = token.rest session.clock seconds := by
        simp only [restOf, htoken]
      rw [look_of_tokened hwaited] at hlook
      unfold Token.look at hlook
      split at hlook
      · cases hlook
      · split at hlook
        · cases hlook
        case isFalse hundue =>
          rw [hrest]
          apply Token.rest_of_undue
          rw [← hrest]
          exact Bool.eq_false_iff.mpr hundue

theorem clock_add_le_waited {seconds : τ} {session : Session τ}
    (hlook : (session.waited seconds).look.1 = false) :
    session.clock + seconds ≤ (session.waited seconds).clock := by
  change session.clock + seconds ≤ (session.restOf seconds).clock
  rcases restOf_of_uncancelled hlook with hrest | hrest
  · rw [hrest]
  · rw [hrest]
    exact add_le_add_right (le_max_right _ _) _

/-- A wait that is not cancelled is the same with a token and without. -/
theorem withoutToken_waited {seconds : τ} {session : Session τ}
    (hlook : (session.waited seconds).look.1 = false) (hseconds : 0 ≤ seconds) :
    (session.waited seconds).withoutToken = session.withoutToken.waited seconds := by
  have hrest : session.restOf seconds = ⟨seconds, session.clock + seconds⟩ := by
    rcases restOf_of_uncancelled hlook with hrest | hrest
    · exact hrest
    · rwa [max_eq_right hseconds] at hrest
  unfold waited
  rw [hrest]
  rfl

end Session

namespace Fetcher

theorem missing?_pos {fetcher : Fetcher τ} {session : Session τ} {missing : τ}
    (hmissing : fetcher.missing? session = some missing) : 0 < missing := by
  obtain ⟨last, -, hearly, rfl⟩ := missing?_eq_some hmissing
  exact sub_pos.mpr hearly

variable [TimeText τ]

theorem clock_le_slot {fetcher : Fetcher τ} {session : Session τ}
    (hlook : (fetcher.slot session).look.1 = false) :
    session.clock ≤ (fetcher.slot session).clock := by
  cases hmissing : fetcher.missing? session with
  | none => rw [slot_of_passed hmissing]
  | some missing =>
      rw [slot_of_missing hmissing] at hlook ⊢
      have hwaited := Session.clock_add_le_waited hlook
      calc session.clock
          ≤ session.clock + missing := le_add_of_nonneg_right (missing?_pos hmissing).le
        _ ≤ _ := hwaited

/-- A slot comes when the interval since the last success has passed. -/
theorem last_add_le_slot {fetcher : Fetcher τ} {session : Session τ} {last : τ}
    (hlook : (fetcher.slot session).look.1 = false) (hlast : session.lastSuccess = some last) :
    last + fetcher.minInterval ≤ (fetcher.slot session).clock := by
  cases hmissing : fetcher.missing? session with
  | none =>
      rw [slot_of_passed hmissing]
      exact le_sub_iff_add_le'.mp (not_lt.mp (missing?_eq_none hmissing hlast))
  | some missing =>
      rw [slot_of_missing hmissing] at hlook ⊢
      obtain ⟨other, hother, -, rfl⟩ := missing?_eq_some hmissing
      obtain rfl := Option.some.inj (hlast.symm.trans hother)
      have hwaited := Session.clock_add_le_waited hlook
      calc last + fetcher.minInterval
          = session.clock + (fetcher.minInterval - (session.clock - last)) := by abel
        _ ≤ _ := hwaited

/-- A slot that is not cancelled is the same with a token and without. -/
theorem withoutToken_slot {fetcher : Fetcher τ} {session : Session τ}
    (hlook : (fetcher.slot session).look.1 = false) :
    (fetcher.slot session).withoutToken = fetcher.slot session.withoutToken := by
  have hsame : fetcher.missing? session.withoutToken = fetcher.missing? session := rfl
  cases hmissing : fetcher.missing? session with
  | none => rw [slot_of_passed hmissing, slot_of_passed (hsame.trans hmissing)]
  | some missing =>
      rw [slot_of_missing hmissing] at hlook
      rw [slot_of_missing hmissing, slot_of_missing (hsame.trans hmissing)]
      exact Session.withoutToken_waited hlook (missing?_pos hmissing).le

end Fetcher

end AirQuality
