import AirQuality.Failure

/-!
# Log entries

What the library tells an operator while it works: an entry has a level, a topic and a text.
Work that may fail keeps the entries it wrote until then.
-/

namespace AirQuality

namespace Log

inductive Level where
  | debug
  | info
  | warning
  | error
deriving DecidableEq

def Level.rank : Level → Nat
  | .debug => 0
  | .info => 1
  | .warning => 2
  | .error => 3

inductive Topic where
  | regions
  | registry
  | fetching
  | gios
  | openAq
  | openMeteo
  | aggregation
  | service
  | storage
  | named (name : String)
deriving DecidableEq

structure Entry where
  level : Level
  topic : Topic
  text : String
deriving DecidableEq

/-- The entries of a level or above. -/
def atLeast (level : Level) (entries : List Entry) : List Entry :=
  entries.filter fun entry => level.rank ≤ entry.level.rank

/-- Says that a failure counts as no data. -/
def degraded (topic : Topic) (name : String) (failure : Failure) : Entry :=
  ⟨.warning, topic, s!"{name} failed, treating as no data: {failure.message}"⟩

end Log

/-- Work that writes log entries and may fail. -/
abbrev Logged := ExceptT Failure (StateM (List Log.Entry))

namespace Logged

def note (entry : Log.Entry) : Logged Unit := fun entries => (.ok (), entries ++ [entry])

def lift {α : Type} (outcome : Except Failure α) : Logged α := fun entries => (outcome, entries)

/-- Work whose failures, as far as they are caught, count as no data.  A cancellation is never
caught. -/
def degrade {α : Type} (topic : Log.Topic) (name : String) (isCaught : Failure → Bool)
    (fallback : α) (work : Logged α) : Logged α := fun entries =>
  match work entries with
  | (.ok value, entries) => (.ok value, entries)
  | (.error failure, entries) =>
    if isCaught failure && !failure.isCancelled then
      (.ok fallback, entries ++ [Log.degraded topic name failure])
    else (.error failure, entries)

/-- Work that says when it starts and how it ends. -/
def trace {α : Type} (topic : Log.Topic) (name : String) (work : Logged α) : Logged α :=
  fun entries =>
    match work (entries ++ [⟨.info, topic, s!"Calling {name}"⟩]) with
    | (.ok value, entries) => (.ok value, entries ++ [⟨.info, topic, s!"Completed {name}"⟩])
    | (.error failure, entries) =>
      (.error failure, entries ++ [⟨.error, topic, s!"Error in {name}: {failure.message}"⟩])

end Logged

end AirQuality
