import AirQuality.Fetch.Headers
import AirQuality.Registry
import AirQuality.Source.Gios
import AirQuality.Source.OpenAq
import AirQuality.Source.OpenMeteo

/-!
# Providers

A provider is a source together with the fetcher that carries out its plans.  The three built-in
ones are made from settings, each with a fetcher of its own, and are registered under their
names.
-/

namespace AirQuality

/-- What providers need besides settings: files, the current moment, and the most pages of a
listing that may be read. -/
structure Context where
  files : (path : String) → TextFile
  now : Time.Moment
  pages : Nat

structure Provider where
  source : Source Plan
  fetcher : Fetcher Float
  headers : Headers

namespace Provider

def gios (context : Context) (settings : Settings) : Except Failure Provider := do
  let fetcher ← Fetcher.ofPolicy Gios.name (settings.policyFor Gios.name)
  pure ⟨Gios.source context.now context.pages, fetcher, []⟩

def openAq (context : Context) (settings : Settings) : Except Failure Provider := do
  let fetcher ← Fetcher.ofPolicy OpenAq.name (settings.policyFor OpenAq.name)
  let headers := match settings.openAqKey? with
    | some key => [("X-API-Key", key)]
    | none => []
  pure ⟨OpenAq.source context.now settings.openAqKey?.isSome context.pages, fetcher, headers⟩

def openMeteo (context : Context) (settings : Settings) : Except Failure Provider := do
  let points ← match settings.openMeteoStations? with
    | some path => OpenMeteo.pointsOfFile (context.files path)
    | none => pure OpenMeteo.capitals
  let fetcher ← Fetcher.ofPolicy OpenMeteo.name (settings.policyFor OpenMeteo.name)
  pure ⟨OpenMeteo.source context.now points OpenMeteo.allVariables, fetcher, []⟩

def spec (displayName : String) (requiresKey : Bool)
    (make : Settings → Except Failure Provider) : SourceSpec Provider :=
  ⟨displayName, requiresKey, fun settings => Logged.lift (make settings)⟩

/-- The registry with the built-in providers. -/
def registry (context : Context) : Registry Provider :=
  [(Gios.name, spec "GIOS" false (gios context)),
    (OpenAq.name, spec "OpenAQ" true (openAq context)),
    (OpenMeteo.name, spec "Open-Meteo" false (openMeteo context))]

/-- The source of a provider whose plans its fetcher carries out. -/
def online (provider : Provider) (remote : Remote Float) : Source (StateM (Session Float)) :=
  provider.source.map fun work => Work.perform (provider.fetcher.fetch remote) work

end Provider

end AirQuality
