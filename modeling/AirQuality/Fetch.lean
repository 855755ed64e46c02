import AirQuality.Fetch.Session
import AirQuality.Json.Display
import AirQuality.Settings

/-!
# Fetching

A fetcher asks one provider, politely: it leaves a least interval after each successful request
and tries a request again, after a fixed delay, while its replies are transient and attempts
are left.  A call may carry a token; then every attempt and every wait looks at it first, and a
cancelled call ends before it asks anything more.
-/

namespace AirQuality

open Decimal (Number)

structure Fetcher (τ : Type) where
  source : String
  minInterval : τ
  /-- How many attempts may follow the first. -/
  retries : Nat
  retryDelay : τ
  timeout : Number

/-- A call that moves a session forward. -/
abbrev Fetching (τ : Type) := ExceptT Failure (StateM (Session τ))

namespace Fetcher

/-- A fetcher that keeps to a policy, which has to allow an attempt. -/
def ofPolicy {τ : Type} (source : String) (policy : FetchPolicy τ) :
    Except Failure (Fetcher τ) :=
  if policy.maxAttempts < 1 then .error (.argument .tooFewAttempts)
  else .ok {
    source := source
    minInterval := policy.minInterval
    retries := (policy.maxAttempts - 1).toNat
    retryDelay := policy.retryDelay
    timeout := policy.timeout }

/-- An attempt: it brings a payload or a fault. -/
abbrev Attempt (τ : Type) := ExceptT AttemptFault (StateM (Session τ))

variable {τ : Type} [Add τ] [Sub τ] [OfNat τ 0] [LT τ] [LE τ] [DecidableLT τ] [DecidableLE τ]
  [TimeText τ]

def note (level : Log.Level) (text : String) : Attempt τ Unit := fun session =>
  (.ok (), session.note level text)

/-- Fails if the call is cancelled. -/
def checkToken : Attempt τ Unit := fun session =>
  match session.checkToken with
  | (.ok (), session) => (.ok (), session)
  | (.error failure, session) => (.error (.other failure), session)

/-- Waits, and fails if the call is cancelled when the wait ends. -/
def pause (fetcher : Fetcher τ) (seconds : τ) : Attempt τ Unit := fun session =>
  match session.wait seconds with
  | (false, session) => (.ok (), session)
  | (true, session) =>
    (.error (.other (.cancelled
      s!"{fetcher.source}: cancelled while waiting {TimeText.fixed seconds}s")), session)

/-- Waits for the rest of the interval since the last successful request. -/
def waitForSlot (fetcher : Fetcher τ) : Attempt τ Unit := fun session =>
  match session.lastSuccess with
  | none => (.ok (), session)
  | some last =>
    let elapsed := session.clock - last
    if elapsed < fetcher.minInterval then
      let missing := fetcher.minInterval - elapsed
      fetcher.pause missing (session.note .debug
        s!"{fetcher.source}: rate limiting, waiting {TimeText.fixed missing}s")
    else (.ok (), session)

def parametersText (request : Request) : String :=
  match request.parameters with
  | none => Json.null.quoted
  | some parameters => (Json.object parameters).quoted

/-- Issues the request and takes its reply. -/
def ask (fetcher : Fetcher τ) (remote : Remote τ) (request : Request) : Attempt τ Json :=
  fun session =>
    let exchange := remote session.requests request
    let session := (session.note .debug
      s!"{fetcher.source}: GET {request.url} params={parametersText request}").asked
        request exchange
    match exchange.reply.payload request.url with
    | .ok payload =>
      let session := match exchange.reply with
        | .answer 404 _ _ => session.note .debug s!"{fetcher.source}: {request.url} not found"
        | _ => session
      (.ok payload, { session with lastSuccess := some session.clock })
    | .error (.refused label message isTransient) =>
      (.error (.refused label message isTransient),
        session.note .debug s!"{fetcher.source}: request to {request.url} failed: {message}")
    | .error fault => (.error fault, session)

/-- One attempt at a request. -/
def attempt (fetcher : Fetcher τ) (remote : Remote τ) (request : Request) : Attempt τ Json := do
  checkToken
  fetcher.waitForSlot
  fetcher.ask remote request

/-- Says that another attempt follows. -/
def retryText (fetcher : Fetcher τ) (label message : String) : String :=
  "Retrying atmocheck.fetcher.ResilientFetcher._attempt in " ++
    s!"{TimeText.brief fetcher.retryDelay} seconds as it raised {label}: {message}."

/-- An attempt, and up to so many more while the replies are transient. -/
def attempts (fetcher : Fetcher τ) (remote : Remote τ) (request : Request) :
    (more : Nat) → Attempt τ Json
  | 0 => fetcher.attempt remote request
  | more + 1 => fun session =>
    match fetcher.attempt remote request session with
    | (.error (.refused label message true), session) =>
      (do
        note .warning (fetcher.retryText label message)
        fetcher.pause fetcher.retryDelay
        attempts fetcher remote request more) session
    | finished => finished

/-- The payload of a request, or null if there is nothing at its address. -/
def fetch (fetcher : Fetcher τ) (remote : Remote τ) (request : Request) : Fetching τ Json :=
  fun session =>
    match fetcher.attempts remote request fetcher.retries session with
    | (.ok payload, session) => (.ok payload, session)
    | (.error (.refused _ message _), session) =>
      (.error (.unavailable fetcher.source request.url message),
        { session with errorCount := session.errorCount + 1 })
    | (.error (.other failure), session) => (.error failure, session)

end Fetcher

end AirQuality
