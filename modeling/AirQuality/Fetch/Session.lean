import AirQuality.Decimal.Layout
import AirQuality.Fetch.Token
import AirQuality.Fetch.Exchange
import AirQuality.Log

/-!
# Sessions

A session with a provider: the clock, the token of the call in progress, the counters, and a
trace of everything that happened, in order.  A call moves the session forward.
-/

namespace AirQuality

/-- How times appear in messages. -/
class TimeText (τ : Type) where
  /-- With two decimal places. -/
  fixed : τ → String
  /-- With three significant digits. -/
  brief : τ → String

instance : TimeText Float where
  fixed seconds := String.ofList (Decimal.fixedText 2 seconds)
  brief seconds := String.ofList (Decimal.briefText seconds)

/-- Something that takes time. -/
inductive Event (τ : Type) where
  | asked (request : Request) (issued : τ) (exchange : Exchange τ)
  | rested (seconds : τ)

namespace Event

variable {τ : Type}

def request? : Event τ → Option Request
  | .asked request _ _ => some request
  | .rested _ => none

def rest? : Event τ → Option τ
  | .asked .. => none
  | .rested seconds => some seconds

end Event

structure Session (τ : Type) where
  clock : τ
  token : Option (Token τ)
  /-- The clock when the last successful request was complete. -/
  lastSuccess : Option τ
  requestCount : Nat
  errorCount : Nat
  trace : List (Event τ)
  entries : List Log.Entry

namespace Session

variable {τ : Type}

def start (clock : τ) : Session τ := ⟨clock, none, none, 0, 0, [], []⟩

/-- The requests so far, in order. -/
def requests (session : Session τ) : List Request := session.trace.filterMap Event.request?

/-- The waits so far, in order. -/
def rests (session : Session τ) : List τ := session.trace.filterMap Event.rest?

def note (level : Log.Level) (text : String) (session : Session τ) : Session τ :=
  { session with entries := session.entries ++ [⟨level, .fetching, text⟩] }

/-- The session when the clock shows a time. -/
def atTime (now : τ) (session : Session τ) : Session τ := { session with clock := now }

/-- Records a wait that ends at a reading of the clock. -/
def rested (seconds clock : τ) (session : Session τ) : Session τ :=
  { session with clock := clock, trace := session.trace ++ [.rested seconds] }

variable [LE τ] [DecidableLE τ]

/-- Looks at the token, if there is one. -/
def look (session : Session τ) : Bool × Session τ :=
  match session.token with
  | none => (false, session)
  | some token =>
    let (isCancelled, token) := token.look session.clock
    (isCancelled, { session with token := some token })

def cancelledText : String := "Operation cancelled before completion"

/-- Fails if the call is cancelled. -/
def checkToken (session : Session τ) : Except Failure Unit × Session τ :=
  match session.look with
  | (true, session) => (.error (.cancelled cancelledText), session)
  | (false, session) => (.ok (), session)

variable [Add τ]

/-- Records a request with its reply: the time it takes passes first, then the caller may
cancel. -/
def asked (request : Request) (exchange : Exchange τ) (session : Session τ) : Session τ :=
  let after := atTime (session.clock + exchange.takes) { session with
    requestCount := session.requestCount + 1
    trace := session.trace ++ [.asked request session.clock exchange] }
  if exchange.cancels then { after with token := after.token.map Token.cancel } else after

variable [Sub τ] [OfNat τ 0] [LT τ] [DecidableLT τ]

/-- Waits, on the token if there is one, and says whether the call is cancelled when the wait
ends.  A cancelled call does not wait. -/
def wait (seconds : τ) (session : Session τ) : Bool × Session τ :=
  match session.look with
  | (true, session) => (true, session)
  | (false, session) =>
    match session.token with
    | none => (false, session.rested seconds (session.clock + seconds))
    | some token =>
      let rest := token.rest session.clock seconds
      (session.rested rest.seconds rest.clock).look

end Session

end AirQuality
