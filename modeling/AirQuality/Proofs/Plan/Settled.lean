import AirQuality.Proofs.Fetch.Supply
import AirQuality.Proofs.Plan.Trace

/-!
# Runs on settled replies

A provider that gives one reply to each request, at the first attempt, settles what a plan asks as
well as what it comes to.  A run on such replies is the one that a fetcher carries out for a caller
without a token.
-/

namespace AirQuality

variable {α β : Type}

/-- A request is made once and has its settled reply. -/
def Settles (reply : Request → Except Failure Json) (earlier : List Request) (request : Request)
    (outcome : Except Failure Json) (later : List Request) : Prop :=
  outcome = reply request ∧ later = earlier ++ [request]

variable {reply : Request → Except Failure Json} {earlier later : List Request}
  {obtains wider : List Request → Request → Except Failure Json → List Request → Prop}

namespace Plan

theorem ComesTo.answer_eq {plan : Plan α} {value : α}
    (hcomes : plan.ComesTo (Settles reply) earlier value later) :
    plan.answer reply = .ok value := by
  induction plan generalizing earlier with
  | done result => exact congrArg Except.ok hcomes.1.symm
  | request wanted next ih =>
      obtain ⟨outcome, between, ⟨rfl, -⟩, hrest⟩ := hcomes
      exact ih _ hrest
  | note entry next ih => exact ih hcomes
  | unfinished => exact hcomes.elim

theorem ComesTo.mono
    (hwider : ∀ {earlier request outcome later}, obtains earlier request outcome later →
      wider earlier request outcome later)
    {plan : Plan α} {value : α} (hcomes : plan.ComesTo obtains earlier value later) :
    plan.ComesTo wider earlier value later := by
  induction plan generalizing earlier with
  | done result => exact hcomes
  | request wanted next ih =>
      obtain ⟨outcome, between, hobtains, hrest⟩ := hcomes
      exact ⟨outcome, between, hwider hobtains, ih outcome hrest⟩
  | note entry next ih => exact ih hcomes
  | unfinished => exact hcomes.elim

end Plan

namespace Work

theorem ComesTo.answer_eq {work : Work α} {outcome : Except Failure α}
    (hcomes : work.ComesTo (Settles reply) earlier outcome later) :
    work.answer reply = outcome := by
  unfold answer
  rw [Plan.ComesTo.answer_eq hcomes]
  rfl

/-! ### Rules -/

@[simp]
theorem lift_ok_bind (value : α) (next : α → Work β) :
    (lift (.ok value) >>= next) = next value := rfl

theorem comesTo_note {level : Log.Level} {topic : Log.Topic} {text : String} :
    (note level topic text).ComesTo obtains earlier (.ok ()) earlier := ⟨rfl, rfl⟩

/-- Work for one item after another, with a request for each. -/
theorem comesTo_mapM {next : β → Work α} {value : β → α} {request : β → Request} {items : List β}
    (hnext : ∀ item ∈ items, ∀ earlier,
      (next item).ComesTo obtains earlier (.ok (value item)) (earlier ++ [request item])) :
    (items.mapM next).ComesTo obtains earlier (.ok (items.map value))
      (earlier ++ items.map request) := by
  induction items generalizing earlier with
  | nil => exact comesTo_pure.mpr ⟨rfl, List.append_nil earlier⟩
  | cons item rest ih =>
      obtain ⟨hitem, hrest⟩ := List.forall_mem_cons.mp hnext
      rw [List.mapM_cons]
      refine comesTo_bind_ok.mpr ⟨_, _, hitem earlier, comesTo_bind_ok.mpr ⟨_, _, ih hrest, ?_⟩⟩
      refine comesTo_pure.mpr ⟨rfl, ?_⟩
      rw [List.map_cons, List.append_assoc, List.singleton_append]

end Work

namespace Fetcher

variable {τ : Type} {fetcher : Fetcher τ} {remote : Remote τ} {upstream : Request → Json}

/-- Where the first attempt brings a payload there is no other. -/
theorem Obtains.settles (hsupplies : remote.Supplies upstream) {request : Request}
    {outcome : Except Failure Json}
    (hobtains : fetcher.Obtains remote earlier request outcome later) :
    Settles (fun request => .ok (upstream request)) earlier request outcome later := by
  obtain ⟨count, htried, rfl, rfl⟩ := hobtains
  have hpayload (times : Nat) :
      (remote.replyTo earlier request times).payload request.url = .ok (upstream request) :=
    hsupplies _ request
  have hsettled : Reply.SettledFirstAt (remote.replyTo earlier request) 0 := by
    refine ⟨fun htransient => ?_, nofun⟩
    obtain ⟨fault, hfault, -⟩ := (Reply.isTransient_iff _ request.url).mp htransient
    rw [hpayload] at hfault
    cases hfault
  have hone : count = 1 := by
    rw [htried.eq_min hsettled]
    omega
  subst hone
  rw [hpayload]
  exact ⟨rfl, rfl⟩

variable [Add τ] [Sub τ] [OfNat τ 0] [LT τ] [LE τ] [DecidableLT τ] [DecidableLE τ] [TimeText τ]

/-- Work carried out with such a provider has its run on the settled replies. -/
theorem perform_of_comesTo (fetcher : Fetcher τ) (hsupplies : remote.Supplies upstream)
    {work : Work α} (hwork : work.Reraises) {value : α} {session : Session τ}
    (htoken : session.token = none)
    (hcomes : work.ComesTo (Settles fun request => .ok (upstream request)) session.requests
      (.ok value) later) :
    (work.perform (fetcher.fetch remote) session).1 = .ok value ∧
      (work.perform (fetcher.fetch remote) session).2.requests = later := by
  have hvalue : (work.perform (fetcher.fetch remote) session).1 = .ok value := by
    rw [fetcher.perform_of_supplies hsupplies work session htoken, hcomes.answer_eq]
  have htraced := hwork.comesTo_perform (fetcher.isTraced_fetch remote) hvalue
  have hsettled := Plan.ComesTo.mono (Obtains.settles hsupplies) htraced
  refine ⟨hvalue, (Plan.ComesTo.unique ?_ hcomes hsettled).2⟩
  rintro earlier request outcome later other others ⟨rfl, rfl⟩ ⟨rfl, rfl⟩
  exact ⟨rfl, rfl⟩

end Fetcher

end AirQuality
