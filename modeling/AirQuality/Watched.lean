import AirQuality.Fetch
import AirQuality.Log

/-!
# Watched work

Work that spans several calls keeps an operator informed and can be told to stop: it writes log
entries and can look whether it has been cancelled.
-/

namespace AirQuality

class Watched (m : Type → Type) where
  note : Log.Entry → m Unit
  /-- Looks whether the work has been cancelled. -/
  isCancelled : m Bool

/-- A session is watched by the token of its call. -/
instance {τ : Type} [LE τ] [DecidableLE τ] : Watched (StateM (Session τ)) where
  note entry := fun session => ((), { session with entries := session.entries ++ [entry] })
  isCancelled := Session.look

/-- Work that may fail is watched like the work it is made of. -/
instance {m : Type → Type} [Monad m] [Watched m] : Watched (ExceptT Failure m) where
  note entry := ExceptT.lift (Watched.note entry)
  isCancelled := ExceptT.lift Watched.isCancelled

namespace Watched

variable {m : Type → Type} [Monad m] [Watched m] {α : Type}

def debug (topic : Log.Topic) (text : String) : m Unit := note ⟨.debug, topic, text⟩

def info (topic : Log.Topic) (text : String) : m Unit := note ⟨.info, topic, text⟩

def warn (topic : Log.Topic) (text : String) : m Unit := note ⟨.warning, topic, text⟩

def noteAll : List Log.Entry → m Unit
  | [] => pure ()
  | entry :: rest => do
    note entry
    noteAll rest

/-- An outcome that is already known. -/
def lift (outcome : Except Failure α) : ExceptT Failure m α := ExceptT.mk (pure outcome)

/-- Work that only writes entries. -/
def ofLogged (work : Logged α) : ExceptT Failure m α :=
  ExceptT.mk do
    let (outcome, entries) := work []
    noteAll entries
    pure outcome

/-- Work that says when it starts and how it ends. -/
def trace (topic : Log.Topic) (name : String) (work : ExceptT Failure m α) :
    ExceptT Failure m α :=
  ExceptT.mk do
    note ⟨.info, topic, s!"Calling {name}"⟩
    let outcome ← work.run
    match outcome with
    | .ok _ => note ⟨.info, topic, s!"Completed {name}"⟩
    | .error failure => note ⟨.error, topic, s!"Error in {name}: {failure.message}"⟩
    pure outcome

end Watched

end AirQuality
