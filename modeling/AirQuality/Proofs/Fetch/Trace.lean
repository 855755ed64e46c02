import AirQuality.Fetch.Session
import Mathlib.Data.List.Basic

/-!
# Requests in a trace

A trace tells which requests were issued in a session, at what time, and what came of them.  The
last of them that brought a payload is the last success.  Requests keep an interval if each is
issued at least that long after the last success before it, and they keep a delay if each is
issued at least that long after the one before it.
-/

namespace AirQuality

variable {τ : Type}

/-- A request that was issued, and what came of it. -/
structure Asking (τ : Type) where
  request : Request
  issued : τ
  exchange : Exchange τ

namespace Asking

/-- Whether the request brought a payload, which is null where there is nothing. -/
def isSuccess (asking : Asking τ) : Bool :=
  (asking.exchange.reply.payload asking.request.url).isOk

/-- The time at which the request was complete. -/
def completed [Add τ] (asking : Asking τ) : τ := asking.issued + asking.exchange.takes

/-- The last success among requests. -/
def lastSuccess? (askings : List (Asking τ)) : Option (Asking τ) :=
  (askings.filter isSuccess).getLast?

theorem lastSuccess?_append_singleton (askings : List (Asking τ)) (asking : Asking τ) :
    lastSuccess? (askings ++ [asking]) =
      if asking.isSuccess then some asking else lastSuccess? askings := by
  unfold lastSuccess?
  rw [List.filter_append]
  cases hsuccess : asking.isSuccess with
  | true => simp [hsuccess]
  | false => simp [hsuccess]

variable [Add τ] [LE τ]

/-- Each request is issued at least so long after the last success before it. -/
def KeepInterval (interval : τ) (askings : List (Asking τ)) : Prop :=
  ∀ earlier asking later, askings = earlier ++ asking :: later →
    ∀ last, lastSuccess? earlier = some last → last.completed + interval ≤ asking.issued

theorem keepInterval_nil (interval : τ) : KeepInterval interval [] := by
  intro earlier asking later hsplit
  simp at hsplit

theorem KeepInterval.append_singleton {interval : τ} {askings : List (Asking τ)}
    (hkeep : KeepInterval interval askings) {asking : Asking τ}
    (hlast : ∀ last, lastSuccess? askings = some last →
      last.completed + interval ≤ asking.issued) :
    KeepInterval interval (askings ++ [asking]) := by
  intro earlier other later hsplit
  rcases List.eq_nil_or_concat later with rfl | ⟨before, final, rfl⟩
  · obtain ⟨rfl, hsame⟩ := List.append_inj' hsplit rfl
    obtain rfl := List.singleton_inj.mp hsame
    exact hlast
  · have hinner : askings ++ [asking] = (earlier ++ other :: before) ++ [final] := by
      rw [hsplit, List.concat_eq_append, List.append_assoc, List.cons_append]
    exact hkeep earlier other before (List.append_inj' hinner rfl).1

/-- Each request is issued at least so long after the one before it is complete. -/
def KeepDelay (delay : τ) (askings : List (Asking τ)) : Prop :=
  askings.IsChain fun asking next => asking.completed + delay ≤ next.issued

end Asking

/-- The request of an event, with all that came of it. -/
def Event.asking? : Event τ → Option (Asking τ)
  | .asked request issued exchange => some ⟨request, issued, exchange⟩
  | .rested _ => none

/-- The requests of a trace. -/
def Event.askings (trace : List (Event τ)) : List (Asking τ) := trace.filterMap Event.asking?

@[simp]
theorem Event.askings_append (trace more : List (Event τ)) :
    askings (trace ++ more) = askings trace ++ askings more :=
  List.filterMap_append

@[simp]
theorem Event.askings_rests (rests : List τ) : askings (rests.map .rested) = [] := by
  induction rests with
  | nil => rfl
  | cons rest others ih => exact ih

/-- The requests of a session so far. -/
def Session.askings (session : Session τ) : List (Asking τ) := Event.askings session.trace

theorem Session.requests_eq (session : Session τ) :
    session.requests = session.askings.map (·.request) := by
  unfold requests askings Event.askings
  rw [List.map_filterMap]
  congr 1
  funext event
  cases event with
  | asked request issued exchange => rfl
  | rested seconds => rfl

end AirQuality
