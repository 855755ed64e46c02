import AirQuality.Source

/-!
# Scripts

A script is a source whose replies are settled beforehand: what it lists, which of its calls
fail, and during which of them the work is cancelled.
-/

namespace AirQuality

/-- A call to a source. -/
inductive Call where
  | stations
  | parameters (stationId : String)
  | measurements (query : Query)

def Call.toJson : Call → Json
  | .stations => .list [.text "stations"]
  | .parameters stationId => .list [.text "parameters", .text stationId]
  | .measurements query =>
    .list [.text "measurements", .text query.stationId, .text query.parameterId,
      .ofOption .int query.limits.maxCount, .ofOption .ofNumber query.limits.maxAgeDays,
      .ofOption .text query.parameterKey]

structure Script where
  name : String
  stations : List Station
  parameters : (stationId : String) → List Parameter
  measurements : Query → List Measurement
  /-- How a call fails, if it does. -/
  failure : Call → Option Failure
  /-- Whether the work is cancelled during a call. -/
  cancels : Call → Bool

namespace Script

/-- The outcome of a call, given what it lists. -/
def outcome {α : Type} (script : Script) (call : Call) (reply : α) : Except Failure α :=
  match script.failure call with
  | some failure => .error failure
  | none => .ok reply

/-- The source that answers as a script says, where calls are carried out in some way. -/
def source {m : Type → Type} (script : Script)
    (carryOut : {α : Type} → Call → Except Failure α → ExceptT Failure m α) : Source m where
  name := script.name
  stations := carryOut .stations (script.outcome .stations script.stations)
  parameters stationId :=
    carryOut (.parameters stationId)
      (script.outcome (.parameters stationId) (script.parameters stationId))
  measurements query :=
    carryOut (.measurements query)
      (script.outcome (.measurements query) (script.measurements query))

end Script

end AirQuality
