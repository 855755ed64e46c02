import AirQuality.Log
import AirQuality.Named
import AirQuality.Settings
import AirQuality.Text.Blank
import AirQuality.Text.Search

/-!
# The registry of sources

Sources are registered under a name, which is kept in capitals, without blanks around it and
with underscores for hyphens.  The built-in names are listed first, in their fixed order, and
the others in the order in which they were first registered.
-/

namespace AirQuality

/-- A registered source: how it is shown, whether it needs a key, and how to make an adapter. -/
structure SourceSpec (α : Type) where
  displayName : String
  requiresKey : Bool
  create : Settings → Logged α

/-- A source whose adapters are seen in another way. -/
def SourceSpec.map {α β : Type} (see : α → β) (spec : SourceSpec α) : SourceSpec β where
  displayName := spec.displayName
  requiresKey := spec.requiresKey
  create settings := see <$> spec.create settings

/-- Keys with their sources, in the order of their first registration. -/
abbrev Registry (α : Type) := List (String × SourceSpec α)

namespace Registry

variable {α : Type}

/-- The form in which a name is kept. -/
def key (name : String) : String :=
  String.ofList (Text.replaceChar '-' '_' (Text.upper (Text.strip name.toList)))

def keys (registry : Registry α) : List String := registry.map (·.1)

def contains (registry : Registry α) (name : String) : Bool := registry.keys.contains (key name)

def find? (registry : Registry α) (name : String) : Option (SourceSpec α) :=
  registry.lookup (key name)

/-- A source registered under a name; one registered again keeps its place. -/
def register (registry : Registry α) (name : String) (spec : SourceSpec α) : Registry α :=
  Named.set (key name) spec registry

/-- Says that a registration takes the place of another. -/
def replacedText (name : String) : String :=
  s!"Source '{key name}' is already registered and will be replaced"

def unregister (registry : Registry α) (name : String) : Registry α :=
  registry.filter fun entry => entry.1 ≠ key name

/-- The keys in the order in which sources are used. -/
def sources (registry : Registry α) : List String :=
  builtinSources.filter registry.keys.contains ++
    registry.keys.filter fun key => !builtinSources.contains key

/-- The keys among the wanted ones that are not registered, in alphabetical order. -/
def missing (registry : Registry α) (wanted : List String) : List String :=
  ((wanted.filter fun key => !registry.keys.contains key).eraseDups).mergeSort

/-- The keys to make adapters for: all of them, or the ones of some names. -/
def selected (registry : Registry α) (names : Option (List String)) :
    Except Failure (List String) :=
  match names with
  | none => .ok registry.sources
  | some names =>
    let wanted := names.map key
    match registry.missing wanted with
    | [] => .ok (registry.sources.filter wanted.contains)
    | missing => .error (.argument (.unknownSources missing registry.sources))

/-- Makes the adapter of a source. -/
def createOne (registry : Registry α) (settings : Settings) (key : String) :
    Logged (List α) := do
  match registry.lookup key with
  | none => pure []
  | some spec =>
    if spec.requiresKey then Logged.note ⟨.debug, .registry, s!"{key} requires an API key"⟩
    let adapter ← spec.create settings
    pure [adapter]

/-- Makes fresh adapters for all sources, or for the sources of some names. -/
def createAdapters (registry : Registry α) (names : Option (List String)) (settings : Settings) :
    Logged (List α) := do
  let keys ← Logged.lift (registry.selected names)
  let adapters ← keys.mapM (registry.createOne settings)
  pure adapters.flatten

end Registry

end AirQuality
