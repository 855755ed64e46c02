import AirQuality.Json.Access

/-!
# Exchanges with a provider

What a provider may do with one request: answer it with a status and a body, or fail to answer.
A reply is transient if another attempt may fare better: no connection, no answer in time, too
many requests, or an error of the server.  A status of 404 says that there is nothing.
-/

namespace AirQuality

structure Request where
  url : String
  parameters : Option (List (String × Json))
deriving Inhabited

/-- A request as it is sent with a timeout. -/
def Request.toJson (timeout : Decimal.Number) (request : Request) : Json :=
  .object [("url", .text request.url), ("params", .ofOption .object request.parameters),
    ("timeout", .ofNumber timeout)]

inductive Body where
  | value (value : Json)
  | text (text : String)

inductive Reply.Fault where
  /-- No connection. -/
  | connection
  /-- No answer in time. -/
  | timeout
  /-- A request that cannot be answered. -/
  | request
  /-- A failure that is not the request's. -/
  | foreign
deriving DecidableEq

inductive Reply where
  | answer (status : Int) (reason : String) (body : Body)
  | fault (fault : Reply.Fault) (label message : String)

/-- A reply, the time it takes, and whether the caller cancels during that time. -/
structure Exchange (τ : Type) where
  reply : Reply
  takes : τ
  cancels : Bool

/-- A provider answers each request as it sees fit, knowing the requests before it. -/
abbrev Remote (τ : Type) := (earlier : List Request) → Request → Exchange τ

/-- A provider that has nothing at an address. -/
def Exchange.nothing {τ : Type} [OfNat τ 0] : Exchange τ :=
  ⟨.answer 404 "" (.value .null), 0, false⟩

/-- A provider that answers from a list, and has nothing after that. -/
def Remote.ofList {τ : Type} [OfNat τ 0] (exchanges : List (Exchange τ)) : Remote τ :=
  fun earlier _ => exchanges.getD earlier.length Exchange.nothing

/-- Why an attempt brings no payload: the request was refused, or something else went wrong. -/
inductive AttemptFault where
  | refused (label message : String) (isTransient : Bool)
  | other (failure : Failure)

namespace Reply

def httpLabel : String := "HTTPError"

def decodeLabel : String := "JSONDecodeError"

/-- The text of a body without the mark of its byte order. -/
def withoutMark : List Char → List Char
  | '\uFEFF' :: rest => rest
  | text => text

def decodeBody : Body → Except AttemptFault Json
  | .value value => .ok value
  | .text text =>
    let document := withoutMark text.toList
    match Json.decode document with
    | .ok value => .ok value
    | .error (.tooManyDigits count) => .error (.other (.argument (.tooManyDigits count)))
    | .error (.tooDeep kind) => .error (.other (.tooDeep kind))
    | .error problem => .error (.refused decodeLabel (problem.message document) false)

def isServerError (status : Int) : Bool := 500 ≤ status && status < 600

def isClientError (status : Int) : Bool := 400 ≤ status && status < 500

/-- The statuses that are worth another attempt. -/
def isTransientStatus (status : Int) : Bool := status = 429 || isServerError status

def statusMessage (status : Int) (reason url : String) : String :=
  let side := if isServerError status then "Server" else "Client"
  s!"{status} {side} Error: {reason} for url: {url}"

/-- The payload a reply brings; there is none where there is nothing. -/
def payload (url : String) : Reply → Except AttemptFault Json
  | .answer status reason body =>
    if status = 404 then .ok .null
    else if isClientError status || isServerError status then
      .error (.refused httpLabel (statusMessage status reason url) (isTransientStatus status))
    else decodeBody body
  | .fault .connection label message => .error (.refused label message true)
  | .fault .timeout label message => .error (.refused label message true)
  | .fault .request label message => .error (.refused label message false)
  | .fault .foreign label message => .error (.other (.foreign label message))

end Reply

end AirQuality
