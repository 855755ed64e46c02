import AirQuality.Fetch

/-!
# Plans

A plan says what to ask a provider and what to make of the replies, without asking.  It asks one
request after another, each knowing the replies before it, and may write log entries.  A plan
is carried out by a fetcher.  Whatever a request comes to is handed to the plan, a cancellation as
well, so it is up to each handler on the way to let a cancellation through.
-/

namespace AirQuality

inductive Plan (α : Type) where
  | done (value : α)
  | request (request : Request) (next : Except Failure Json → Plan α)
  | note (entry : Log.Entry) (next : Plan α)
  /-- A plan that would need more pages than it may read. -/
  | unfinished

namespace Plan

variable {α β : Type}

def bind : Plan α → (α → Plan β) → Plan β
  | .done value, next => next value
  | .request wanted rest, next => .request wanted fun reply => (rest reply).bind next
  | .note entry rest, next => .note entry (rest.bind next)
  | .unfinished, _ => .unfinished

instance : Monad Plan where
  pure := .done
  bind := bind

/-- Carries a plan out with a way to fetch. -/
def perform {τ : Type} (fetch : Request → Fetching τ Json) : Plan α → Fetching τ α
  | .done value => fun session => (.ok value, session)
  | .request wanted next => fun session =>
    match fetch wanted session with
    | (reply, session) => perform fetch (next reply) session
  | .note entry next => fun session =>
    perform fetch next { session with entries := session.entries ++ [entry] }
  | .unfinished => fun session => (.error .unfinished, session)

end Plan

/-- A plan that may fail. -/
abbrev Work := ExceptT Failure Plan

namespace Work

variable {α : Type}

def lift (outcome : Except Failure α) : Work α := ExceptT.mk (.done outcome)

def note (level : Log.Level) (topic : Log.Topic) (text : String) : Work Unit :=
  ExceptT.mk (.note ⟨level, topic, text⟩ (.done (.ok ())))

/-- Asks for the payload at an address. -/
def fetch (url : String) (parameters : Option (List (String × Json))) : Work Json :=
  ExceptT.mk (.request ⟨url, parameters⟩ .done)

def unfinished : Work α := ExceptT.mk .unfinished

/-- What a guard makes of an outcome: a failure counts as no data.  A cancellation is no failure of
a provider, so it is never swallowed, but goes on to the caller. -/
def handle (topic : Log.Topic) (name : String) (fallback : α) :
    Except Failure α → Plan (Except Failure α)
  | .ok value => .done (.ok value)
  | .error failure =>
    if failure.isCancelled then .done (.error failure)
    else .note (Log.degraded topic name failure) (.done (.ok fallback))

/-- Work within a guard. -/
def degrade (topic : Log.Topic) (name : String) (fallback : α) (work : Work α) : Work α :=
  ExceptT.mk (work.run.bind (handle topic name fallback))

/-- Carries work out with a way to fetch. -/
def perform {τ : Type} (fetch : Request → Fetching τ Json) (work : Work α) : Fetching τ α :=
  fun session =>
    match work.run.perform fetch session with
    | (.ok outcome, session) => (outcome, session)
    | (.error failure, session) => (.error failure, session)

end Work

end AirQuality
