import AirQuality.Proofs.Plan

/-!
# Cancellations on their way through a plan

A cancelled request is handed to its plan as a failure among others, and what becomes of it is up to
the plan: a handler could take it for a failure of the provider and fall back on something else.
Work raises cancellations again if none of its handlers does so.  A cancellation then ends the work
there and then, without an entry or another request.  There is a rule for each way to make work, and
a guard keeps its rule because it lets cancellations through.
-/

namespace AirQuality

variable {α β : Type}

namespace Plan

/-- As soon as a request is cancelled the plan comes to that. -/
def Reraises : Plan (Except Failure α) → Prop
  | .done _ => True
  | .request _ next =>
    (∀ failure, failure.isCancelled = true → next (.error failure) = .done (.error failure)) ∧
      ∀ reply, (next reply).Reraises
  | .note _ next => next.Reraises
  | .unfinished => True

/-- A handler keeps what it handles as it was, if it hands cancellations on. -/
theorem Reraises.bind {plan : Plan (Except Failure α)}
    {next : Except Failure α → Plan (Except Failure β)} (hplan : plan.Reraises)
    (hcancelled : ∀ failure, failure.isCancelled = true →
      next (.error failure) = .done (.error failure))
    (hnext : ∀ outcome, (next outcome).Reraises) : (plan.bind next).Reraises := by
  induction plan with
  | done outcome => exact hnext outcome
  | request wanted rest ih =>
      refine ⟨fun failure hfailure => ?_, fun reply => ih reply (hplan.2 reply)⟩
      calc
        (rest (.error failure)).bind next = (done (.error failure)).bind next := by
          rw [hplan.1 failure hfailure]
        _ = done (.error failure) := hcancelled failure hfailure
  | note entry rest ih => exact ih hplan
  | unfinished => trivial

/-- A plan whose first request is cancelled has come to its end. -/
theorem Reraises.perform_of_cancelled {τ : Type} {fetch : Request → Fetching τ Json}
    {wanted : Request} {next : Except Failure Json → Plan (Except Failure α)}
    (hplan : (request wanted next).Reraises) {session : Session τ} {failure : Failure}
    (hreply : (fetch wanted session).1 = .error failure) (hcancelled : failure.isCancelled = true) :
    (request wanted next).perform fetch session =
      (.ok (.error failure), (fetch wanted session).2) := by
  rw [perform_request, hreply, hplan.1 failure hcancelled]
  rfl

end Plan

namespace Work

/-- Work whose plan raises cancellations again. -/
def Reraises (work : Work α) : Prop := work.run.Reraises

theorem reraises_lift (outcome : Except Failure α) : (lift outcome).Reraises := trivial

theorem reraises_pure (value : α) : Reraises (pure value) := trivial

theorem reraises_note (level : Log.Level) (topic : Log.Topic) (text : String) :
    (note level topic text).Reraises := trivial

theorem reraises_unfinished : (unfinished : Work α).Reraises := trivial

theorem reraises_fetch (url : String) (parameters : Option (List (String × Json))) :
    (fetch url parameters).Reraises := ⟨fun _ _ => rfl, fun _ => trivial⟩

theorem Reraises.bind {work : Work α} {next : α → Work β} (hwork : work.Reraises)
    (hnext : ∀ value, (next value).Reraises) : (work >>= next).Reraises := by
  apply Plan.Reraises.bind hwork
  · exact fun _ _ => rfl
  · intro outcome
    cases outcome with
    | ok value => exact hnext value
    | error failure => trivial

theorem reraises_mapM {next : β → Work α} (hnext : ∀ item, (next item).Reraises)
    (items : List β) : (items.mapM next).Reraises := by
  induction items with
  | nil => exact reraises_pure []
  | cons item rest ih =>
      rw [List.mapM_cons]
      exact (hnext item).bind fun value => ih.bind fun others => reraises_pure (value :: others)

/-- A guard takes only other failures for no data. -/
theorem Reraises.degrade {work : Work α} (hwork : work.Reraises) (topic : Log.Topic)
    (name : String) (fallback : α) : (degrade topic name fallback work).Reraises := by
  apply Plan.Reraises.bind hwork
  · exact fun _ => handle_of_cancelled
  · intro outcome
    rcases handle_cases _ _ _ outcome with hhandle | ⟨entry, hhandle⟩
    · exact hhandle ▸ trivial
    · exact hhandle ▸ trivial

end Work

end AirQuality
