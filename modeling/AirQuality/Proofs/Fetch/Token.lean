import AirQuality.Proofs.Fetch.ExactTime

/-!
# Heeding a token

A fetch that carries a token begins nothing while the token is cancelled: no request is issued
then and no wait starts, and a wait that has started is over when the deadline or the moment of the
cancellation comes.  All that can happen to the token meanwhile is that it is cancelled.
-/

namespace AirQuality

variable {τ : Type}

namespace Token

/-- A token is cancelled once someone has cancelled it, its deadline has passed, or the moment has
come at which someone cancels it. -/
def IsCancelled [LE τ] (now : τ) (token : Token τ) : Prop :=
  token.isSet = true ∨ (∃ deadline, token.deadline = some deadline ∧ deadline ≤ now) ∨
    ∃ moment, token.cancelAt = some moment ∧ moment ≤ now

/-- The token after a request, during which the caller may cancel it. -/
def afterRequest (exchange : Exchange τ) (token : Token τ) : Token τ :=
  if exchange.cancels then token.cancel else token

section Look

variable [LE τ] [DecidableLE τ]

theorem isDue_eq_true_iff {now : τ} {token : Token τ} :
    token.isDue now = true ↔
      (∃ deadline, token.deadline = some deadline ∧ deadline ≤ now) ∨
        ∃ moment, token.cancelAt = some moment ∧ moment ≤ now := by
  simp only [isDue, Bool.or_eq_true, Option.any_eq_true, decide_eq_true_eq]

theorem isCancelled_iff {now : τ} {token : Token τ} :
    token.IsCancelled now ↔ token.isSet = true ∨ token.isDue now = true := by
  rw [isDue_eq_true_iff]
  rfl

/-- A look at a cancelled token sets it. -/
theorem look_of_isCancelled {now : τ} {token : Token τ} (hcancelled : token.IsCancelled now) :
    token.look now = (true, token.cancel) := by
  obtain ⟨isSet, deadline, cancelAt⟩ := token
  cases isSet with
  | true => rfl
  | false =>
      have hdue := (isCancelled_iff.mp hcancelled).resolve_left Bool.false_ne_true
      simp only [look, Bool.false_eq_true, if_false, if_pos hdue]

theorem look_of_calm {now : τ} {token : Token τ} (hcalm : ¬token.IsCancelled now) :
    token.look now = (false, token) := by
  have hboth := not_or.mp (mt isCancelled_iff.mpr hcalm)
  simp only [look, if_neg hboth.1, if_neg hboth.2]

/-- A look shows whether a token is cancelled. -/
theorem look_eq_true_iff {now : τ} {token : Token τ} :
    (token.look now).1 = true ↔ token.IsCancelled now := by
  by_cases hcancelled : token.IsCancelled now
  · rw [look_of_isCancelled hcancelled]
    exact iff_of_true rfl hcancelled
  · rw [look_of_calm hcancelled]
    exact iff_of_false Bool.false_ne_true hcancelled

end Look

theorem isCancelled_of_isSet [LE τ] {now : τ} {token : Token τ} (hset : token.isSet = true) :
    token.IsCancelled now := .inl hset

/-! ### What a fetch does with its token -/

/-- The only thing that ever happens to a token is that it is cancelled. -/
def Becomes (token last : Token τ) : Prop := last = token ∨ last = token.cancel

namespace Becomes

variable {token middle last : Token τ}

theorem refl (token : Token τ) : token.Becomes token := .inl rfl

theorem trans (hfirst : token.Becomes middle) (hsecond : middle.Becomes last) :
    token.Becomes last := by
  rcases hfirst with rfl | rfl
  · exact hsecond
  · exact .inr (hsecond.elim id id)

theorem isSet (hbecomes : token.Becomes last) (hset : token.isSet = true) :
    last.isSet = true := by
  rcases hbecomes with rfl | rfl
  · exact hset
  · rfl

/-- What is cancelled stays so, unless the clock is set back. -/
theorem isCancelled [Preorder τ] {now later : τ} (hbecomes : token.Becomes last)
    (hcancelled : token.IsCancelled now) (hclock : now ≤ later) : last.IsCancelled later := by
  rcases hbecomes with rfl | rfl
  · rcases hcancelled with hset | ⟨deadline, hdeadline, hpassed⟩ | ⟨moment, hmoment, hpassed⟩
    · exact isCancelled_of_isSet hset
    · exact .inr (.inl ⟨deadline, hdeadline, hpassed.trans hclock⟩)
    · exact .inr (.inr ⟨moment, hmoment, hpassed.trans hclock⟩)
  · exact isCancelled_of_isSet rfl

end Becomes

theorem becomes_look [LE τ] [DecidableLE τ] (now : τ) (token : Token τ) :
    token.Becomes (token.look now).2 := by
  by_cases hcancelled : token.IsCancelled now
  · rw [look_of_isCancelled hcancelled]
    exact .inr rfl
  · rw [look_of_calm hcancelled]
    exact .refl token

theorem becomes_afterRequest (exchange : Exchange τ) (token : Token τ) :
    token.Becomes (token.afterRequest exchange) := by
  unfold afterRequest
  split
  · exact .inr rfl
  · exact .refl token

/-- What happens from some time on in work that heeds its token, and the token and the time at its
end.  A request is issued and a wait starts only while the token is not cancelled, and the wait is
over by the deadline and by the moment of the cancellation.  When the token is seen cancelled
nothing more happens. -/
inductive Heeds [Add τ] [OfNat τ 0] [LE τ] (remote : Remote τ) :
    Token τ → τ → List (Event τ) → Token τ → τ → Prop
  | done (token : Token τ) (now : τ) : Heeds remote token now [] token now
  | seen {token : Token τ} {now : τ} (hcancelled : token.IsCancelled now) :
      Heeds remote token now [] token.cancel now
  | asked {token last : Token τ} {now later : τ} {events : List (Event τ)}
      (hcalm : ¬token.IsCancelled now) (earlier : List Request) (request : Request)
      (hmore : Heeds remote (token.afterRequest (remote earlier request))
        (now + (remote earlier request).takes) events last later) :
      Heeds remote token now (.asked request now (remote earlier request) :: events) last later
  | rested {token last : Token τ} {now later seconds : τ} {events : List (Event τ)}
      (hcalm : ¬token.IsCancelled now) (hforward : 0 ≤ seconds)
      (hdeadline : ∀ deadline, token.deadline = some deadline → now + seconds ≤ deadline)
      (hmoment : ∀ moment, token.cancelAt = some moment → now + seconds ≤ moment)
      (hmore : Heeds remote token (now + seconds) events last later) :
      Heeds remote token now (.rested seconds :: events) last later

namespace Heeds

section Steps

variable [Add τ] [OfNat τ 0] [LE τ] {remote : Remote τ} {token middle last : Token τ}
  {now meanwhile later : τ} {events more : List (Event τ)}

/-- Work that heeds a cancelled token does nothing. -/
theorem of_isCancelled (hheeds : Heeds remote token now events last later)
    (hcancelled : token.IsCancelled now) :
    events = [] ∧ later = now ∧ token.Becomes last := by
  cases hheeds with
  | done => exact ⟨rfl, rfl, .inl rfl⟩
  | seen => exact ⟨rfl, rfl, .inr rfl⟩
  | asked hcalm => exact absurd hcancelled hcalm
  | rested hcalm => exact absurd hcancelled hcalm

theorem trans (hfirst : Heeds remote token now events middle meanwhile)
    (hsecond : Heeds remote middle meanwhile more last later) :
    Heeds remote token now (events ++ more) last later := by
  induction hfirst with
  | done => exact hsecond
  | seen hcancelled =>
      obtain ⟨rfl, rfl, rfl | rfl⟩ := hsecond.of_isCancelled (isCancelled_of_isSet rfl)
      · exact .seen hcancelled
      · exact .seen hcancelled
  | asked hcalm earlier request _ ih => exact .asked hcalm earlier request (ih hsecond)
  | rested hcalm hforward hdeadline hmoment _ ih =>
      exact .rested hcalm hforward hdeadline hmoment (ih hsecond)

theorem becomes (hheeds : Heeds remote token now events last later) : token.Becomes last := by
  induction hheeds with
  | done => exact .refl _
  | seen => exact .inr rfl
  | asked _ _ _ _ ih => exact (becomes_afterRequest _ _).trans ih
  | rested _ _ _ _ _ ih => exact ih

end Steps

/-- No time is taken back where no request takes time back. -/
theorem clock_le [AddCommGroup τ] [LinearOrder τ] [IsOrderedAddMonoid τ] {remote : Remote τ}
    {token last : Token τ} {now later : τ} {events : List (Event τ)}
    (hheeds : Heeds remote token now events last later)
    (hremote : ∀ earlier request, 0 ≤ (remote earlier request).takes) : now ≤ later := by
  induction hheeds with
  | done => exact le_refl _
  | seen => exact le_refl _
  | asked _ earlier request _ ih =>
      exact (le_add_of_nonneg_right (hremote earlier request)).trans ih
  | rested _ hforward _ _ _ ih => exact (le_add_of_nonneg_right hforward).trans ih

end Heeds

end Token

/-! ### Waits within bounds -/

namespace Token

variable [LinearOrder τ]

theorem earlier_eq_min (first second : τ) : earlier first second = min first second := by
  unfold earlier
  split
  case isTrue hlater => exact (min_eq_right hlater.le).symm
  case isFalse hlater => exact (min_eq_left (not_lt.mp hlater)).symm

variable [AddCommGroup τ]

theorem allowance_nonneg (token : Token τ) (now seconds : τ) :
    0 ≤ token.allowance now seconds := by
  rw [allowance, positivePart_eq_max]
  exact le_max_left _ _

variable [IsOrderedAddMonoid τ]

/-- A wait that starts before the deadline is not allowed to go beyond it. -/
theorem add_allowance_le {token : Token τ} {now deadline : τ} (seconds : τ)
    (hdeadline : token.deadline = some deadline) (hearly : now ≤ deadline) :
    now + token.allowance now seconds ≤ deadline := by
  have hpositive : 0 ≤ deadline - now := sub_nonneg.mpr hearly
  have hallowance : token.allowance now seconds ≤ deadline - now := by
    simp only [allowance, remaining, hdeadline, Option.map_some, positivePart_eq_max,
      earlier_eq_min]
    rw [max_eq_right hpositive]
    exact max_le hpositive (min_le_right _ _)
  exact le_sub_iff_add_le'.mp hallowance

/-- A wait on a token that is not cancelled ends when it has lasted, and at the latest when the
token is cancelled. -/
theorem rest_of_calm {token : Token τ} {now : τ} (seconds : τ)
    (hcalm : ¬token.IsCancelled now) :
    let rest := token.rest now seconds
    0 ≤ rest.seconds ∧ now + rest.seconds = rest.clock ∧
      (∀ deadline, token.deadline = some deadline → rest.clock ≤ deadline) ∧
      ∀ moment, token.cancelAt = some moment → rest.clock ≤ moment := by
  intro rest
  have hundue : token.isDue now = false :=
    Bool.eq_false_iff.mpr (not_or.mp (mt isCancelled_iff.mpr hcalm)).2
  obtain ⟨hdeadlines, hmoments⟩ := isDue_eq_false hundue
  let full := now + token.allowance now seconds
  have hfull : now ≤ full := le_add_of_nonneg_right (token.allowance_nonneg now seconds)
  have hstop : now ≤ rest.clock ∧ rest.clock ≤ full ∧
      ∀ moment, token.cancelAt = some moment → rest.clock ≤ moment := by
    cases hcancel : token.cancelAt with
    | none =>
        have hclock : rest.clock = full := by simp only [rest, Token.rest, hcancel, full]
        rw [hclock]
        exact ⟨hfull, le_refl _, nofun⟩
    | some moment =>
        have hclock : rest.clock = min full moment := by
          simp only [rest, Token.rest, hcancel, full, earlier_eq_min]
        rw [hclock]
        refine ⟨le_min hfull (hmoments moment hcancel).le, min_le_left _ _, ?_⟩
        rintro _ ⟨rfl⟩
        exact min_le_right _ _
  have hseconds : rest.seconds = rest.clock - now := rfl
  refine ⟨?_, ?_, ?_, hstop.2.2⟩
  · rw [hseconds]
    exact sub_nonneg.mpr hstop.1
  · rw [hseconds]
    exact add_sub_cancel now rest.clock
  · intro deadline hdeadline
    exact hstop.2.1.trans (add_allowance_le seconds hdeadline (hdeadlines deadline hdeadline).le)

end Token

end AirQuality
