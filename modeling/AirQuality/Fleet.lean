import AirQuality.Named
import AirQuality.Source.Provider
import AirQuality.Source.Script
import AirQuality.Watched

/-!
# Fleets

Several sources asked on behalf of one caller.  A provider has a session of its own, with its
own clock and counters, and of a script the calls are remembered.  The token and the log are
shared, so that a cancellation seen with one source holds for the others.
-/

namespace AirQuality

structure Fleet (τ : Type) where
  /-- The clock of every session when it starts. -/
  start : τ
  /-- The clock of the session used last. -/
  clock : τ
  token : Option (Token τ)
  sessions : List (String × Session τ)
  /-- The calls to scripts, each with the place of its script. -/
  calls : List (String × Call)
  entries : List Log.Entry

namespace Fleet

variable {τ : Type}

/-- A fleet before anything has been asked. -/
def atStart (clock : τ) (token : Option (Token τ)) : Fleet τ := ⟨clock, clock, token, [], [], []⟩

def session (fleet : Fleet τ) (name : String) : Session τ :=
  (fleet.sessions.lookup name).getD (Session.start fleet.start)

/-- A call in the session of a provider, with the token and the log of the fleet. -/
def inSession {α : Type} (name : String) (work : Fetching τ α) :
    ExceptT Failure (StateM (Fleet τ)) α := fun fleet =>
  let (outcome, session) :=
    work { fleet.session name with token := fleet.token, entries := fleet.entries }
  (outcome, { fleet with
    clock := session.clock
    token := session.token
    sessions := Named.set name { session with token := none, entries := [] } fleet.sessions
    entries := session.entries })

/-- The source of a provider that belongs to a fleet. -/
def member (provider : Provider) (remote : Remote Float) : Source (StateM (Fleet Float)) :=
  (provider.online remote).map fun work => inSession provider.source.name work

/-- The source of a script at a place of the fleet. -/
def scripted (place : String) (script : Script) : Source (StateM (Fleet τ)) :=
  script.source fun call outcome fleet =>
    (outcome, { fleet with
      token := if script.cancels call then fleet.token.map Token.cancel else fleet.token
      calls := fleet.calls ++ [(place, call)] })

/-- The calls to the script at a place. -/
def callsTo (fleet : Fleet τ) (place : String) : List Call :=
  (fleet.calls.filter fun call => call.1 = place).map (·.2)

variable [LE τ] [DecidableLE τ]

/-- Looks at the token on the clock of the session used last. -/
def look (fleet : Fleet τ) : Bool × Fleet τ :=
  match fleet.token with
  | none => (false, fleet)
  | some token =>
    let (isCancelled, token) := token.look fleet.clock
    (isCancelled, { fleet with token := some token })

instance : Watched (StateM (Fleet τ)) where
  note entry := fun fleet => ((), { fleet with entries := fleet.entries ++ [entry] })
  isCancelled := look

end Fleet

end AirQuality
