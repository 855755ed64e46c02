import AirQuality.Registry

/-!
# Changes of a registry

Sources are registered and removed one at a time, and a registry may be emptied.  A registration
warns if it takes the place of another, and a removal says whether there was something to remove.
-/

namespace AirQuality.Registry

variable {α : Type}

inductive Change (α : Type) where
  | register (name : String) (spec : SourceSpec α)
  | unregister (name : String)
  | clear

/-- What is told of a change. -/
inductive Notice where
  | nothing
  | replaced (warning : String)
  | removed (found : Bool)
deriving DecidableEq

/-- What a change of a registry tells. -/
def Change.notice (registry : Registry α) : Change α → Notice
  | .register name _ =>
    if registry.contains name then .replaced (replacedText name) else .nothing
  | .unregister name => .removed (registry.contains name)
  | .clear => .nothing

/-- A registry after a change. -/
def Change.after (registry : Registry α) : Change α → Registry α
  | .register name spec => registry.register name spec
  | .unregister name => registry.unregister name
  | .clear => []

/-- A registry after some changes. -/
def afterAll (history : List (Change α)) (registry : Registry α) : Registry α :=
  history.foldl Change.after registry

/-- What is told of some changes, each in its turn. -/
def notices : List (Change α) → Registry α → List Notice
  | [], _ => []
  | change :: rest, registry => change.notice registry :: notices rest (change.after registry)

end AirQuality.Registry
