import AirQuality.Fetch
import AirQuality.Named

/-!
# Desks

A desk is where several callers share one session, each with a token of its own under a name.
Time passes for all tokens alike, whoever is calling.
-/

namespace AirQuality

structure Desk (τ : Type) where
  session : Session τ
  tokens : List (String × Token τ)

namespace Desk

variable {τ : Type}

/-- A desk nobody has called from yet. -/
def start (clock : τ) : Desk τ := ⟨Session.start clock, []⟩

/-- Gives a caller a token. -/
def setToken (name : String) (token : Token τ) (desk : Desk τ) : Desk τ :=
  { desk with tokens := Named.set name token desk.tokens }

def cancel (name : String) (desk : Desk τ) : Desk τ :=
  { desk with tokens := desk.tokens.map fun (other, token) =>
      (other, if other = name then token.cancel else token) }

/-- Lets time pass. -/
def advance [Add τ] (seconds : τ) (desk : Desk τ) : Desk τ :=
  { desk with session := desk.session.atTime (desk.session.clock + seconds) }

/-- Forgets what happened, but not the clock and the counters. -/
def clear (desk : Desk τ) : Desk τ := { desk with session := { desk.session with trace := [] } }

/-- A call with the token of a name, if there is one. -/
def call {α : Type} (name : String) (work : Fetching τ α) (desk : Desk τ) :
    Except Failure α × Desk τ :=
  let (outcome, session) := work { desk.session with token := desk.tokens.lookup name }
  let tokens := match session.token with
    | some token => Named.set name token desk.tokens
    | none => desk.tokens
  (outcome, ⟨{ session with token := none }, tokens⟩)

end Desk

end AirQuality
