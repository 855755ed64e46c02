import AirQuality.Proofs.OpenMeteo.Points
import AirQuality.Source.Provider
import Mathlib.Data.List.Basic

/-!
# Making adapters

The adapters that a registry makes can be seen in another way without changing which of them are
made, and what keeps them from being made is a wrong name or the failure of a factory.
-/

namespace AirQuality

open Outcome (Meets)

variable {α β : Type}

/-! ### Failures of work that writes entries -/

namespace Logged

theorem map_apply (make : α → β) (work : Logged α) (entries : List Log.Entry) :
    (make <$> work) entries = ((work entries).1.map make, (work entries).2) := by
  let next : α → Logged β := fun value => pure (make value)
  rw [map_eq_pure_bind]
  change ExceptT.bindCont next (work entries).1 (work entries).2 = _
  cases (work entries).1 with
  | ok value => rfl
  | error failure => rfl

/-- Work whose failures are all of a kind, whatever was written before. -/
def FailsOnly (kind : Failure → Prop) (work : Logged α) : Prop :=
  ∀ entries, Meets (fun _ => True) kind (work entries).1

variable {kind : Failure → Prop}

theorem FailsOnly.pure (value : α) : FailsOnly kind (pure value) := fun _ => trivial

theorem failsOnly_note (entry : Log.Entry) : FailsOnly kind (note entry) := fun _ => trivial

theorem failsOnly_lift {outcome : Except Failure α}
    (houtcome : Meets (fun _ => True) kind outcome) :
    FailsOnly kind (lift outcome) := fun _ => houtcome

theorem FailsOnly.bind {work : Logged α} {next : α → Logged β} (hwork : FailsOnly kind work)
    (hnext : ∀ value, FailsOnly kind (next value)) : FailsOnly kind (work >>= next) := by
  intro entries
  change Meets _ kind (ExceptT.bindCont next (work entries).1 (work entries).2).1
  have hfirst := hwork entries
  cases hvalue : (work entries).1 with
  | ok value => exact hnext value _
  | error failure =>
      rw [hvalue] at hfirst
      exact hfirst

theorem FailsOnly.mono {other : Failure → Prop} {work : Logged α} (hwork : FailsOnly kind work)
    (hother : ∀ failure, kind failure → other failure) : FailsOnly other work :=
  fun entries => (hwork entries).mono hother

theorem FailsOnly.map {work : Logged α} (make : α → β) (hwork : FailsOnly kind work) :
    FailsOnly kind (make <$> work) := by
  rw [map_eq_pure_bind]
  exact hwork.bind fun _ => FailsOnly.pure _

theorem failsOnly_mapM {read : α → Logged β} (hread : ∀ item, FailsOnly kind (read item))
    (items : List α) : FailsOnly kind (items.mapM read) := by
  induction items with
  | nil => exact FailsOnly.pure []
  | cons item rest ih =>
      rw [List.mapM_cons]
      exact (hread item).bind fun _ => ih.bind fun _ => FailsOnly.pure _

end Logged

namespace Registry

open Logged

/-- A registry whose adapters are seen in another way. -/
def seen (see : α → β) (registry : Registry α) : Registry β :=
  registry.map fun entry => (entry.1, entry.2.map see)

variable (see : α → β) (registry : Registry α)

theorem keys_seen : keys (registry.seen see) = registry.keys := List.map_map ..

theorem lookup_seen (name : String) :
    (registry.seen see).lookup name = (registry.lookup name).map (SourceSpec.map see) := by
  induction registry with
  | nil => rfl
  | cons entry rest ih =>
      change List.lookup name ((entry.1, entry.2.map see) :: seen see rest) = _
      rw [List.lookup_cons, List.lookup_cons]
      cases name == entry.1 with
      | true => rfl
      | false => exact ih

theorem selected_seen (names : Option (List String)) :
    (registry.seen see).selected names = registry.selected names := by
  unfold selected missing sources
  rw [keys_seen]

theorem createOne_seen (settings : Settings) (name : String) :
    (registry.seen see).createOne settings name =
      List.map see <$> registry.createOne settings name := by
  unfold createOne
  rw [lookup_seen]
  cases registry.lookup name with
  | none => simp
  | some spec =>
      cases hkey : spec.requiresKey with
      | true => simp [SourceSpec.map, hkey, functor_norm]
      | false => simp [SourceSpec.map, hkey, functor_norm]

theorem mapM_createOne_seen (settings : Settings) (names : List String) :
    names.mapM ((registry.seen see).createOne settings) =
      List.map (List.map see) <$> names.mapM (registry.createOne settings) := by
  induction names with
  | nil => simp
  | cons name rest ih =>
      rw [List.mapM_cons, List.mapM_cons, createOne_seen, ih]
      simp [functor_norm]

/-- The same adapters are made and seen in the other way. -/
theorem createAdapters_seen (names : Option (List String)) (settings : Settings) :
    (registry.seen see).createAdapters names settings =
      List.map see <$> registry.createAdapters names settings := by
  unfold createAdapters
  rw [selected_seen]
  simp [mapM_createOne_seen, functor_norm, List.map_flatten]

variable {registry} {kind : Failure → Prop}

/-- Adapters fail to be made for the reasons for which factories fail, or because a name is not
registered. -/
theorem failsOnly_createAdapters (hargument : ∀ fault, kind (.argument fault)) {settings : Settings}
    (hcreate : ∀ entry ∈ registry, (entry.2.create settings).FailsOnly kind)
    (names : Option (List String)) :
    (registry.createAdapters names settings).FailsOnly kind := by
  have hselected : Meets (fun _ => True) kind (registry.selected names) := by
    unfold selected
    cases names with
    | none => trivial
    | some names =>
        dsimp only
        cases registry.missing (names.map key) with
        | nil => trivial
        | cons name rest => exact hargument _
  have hone : ∀ name, (registry.createOne settings name).FailsOnly kind := by
    intro name
    unfold createOne
    cases hspec : registry.lookup name with
    | none => exact FailsOnly.pure []
    | some spec =>
        obtain ⟨earlier, later, hregistry, -⟩ := List.lookup_eq_some_iff.mp hspec
        have hmem : (name, spec) ∈ registry := by simp [hregistry]
        have hmade : (spec.create settings >>= fun adapter => Pure.pure [adapter]).FailsOnly kind :=
          (hcreate _ hmem).bind fun _ => FailsOnly.pure _
        cases hkey : spec.requiresKey with
        | true =>
            simp only [hkey, if_true]
            exact (failsOnly_note _).bind fun _ => hmade
        | false =>
            simp only [hkey, Bool.false_eq_true, if_false]
            exact hmade
  unfold createAdapters
  apply (failsOnly_lift hselected).bind
  intro names
  exact (failsOnly_mapM hone names).bind fun _ => FailsOnly.pure _

theorem failsOnly_seen {settings : Settings}
    (hcreate : ∀ entry ∈ registry, (entry.2.create settings).FailsOnly kind) :
    ∀ entry ∈ registry.seen see, (entry.2.create settings).FailsOnly kind := by
  intro entry hmem
  obtain ⟨spec, hspec, rfl⟩ := List.mem_map.mp hmem
  exact (hcreate spec hspec).map see

end Registry

/-! ### The built-in providers -/

/-- A bad setting or a bad file, or something bad in one. -/
inductive Failure.IsOfSettings : Failure → Prop
  | argument (fault : ArgumentFault) : IsOfSettings (.argument fault)
  | undecodable (fault : Text.Utf8.Fault) : IsOfSettings (.undecodable fault)
  | shape (fault : ShapeFault) : IsOfSettings (.shape fault)
  | number (fault : NumberFault) : IsOfSettings (.number fault)
  | tooDeep (kind : Json.Kind) : IsOfSettings (.tooDeep kind)

theorem Failure.IsOfTable.isOfSettings {failure : Failure} (htable : failure.IsOfTable) :
    failure.IsOfSettings := by
  cases htable with
  | item _ hitem =>
      cases hitem with
      | argument fault => exact .argument fault
      | tooLarge => exact .number _
  | undecodable fault => exact .undecodable fault
  | tooDeep kind => exact .tooDeep kind

namespace Provider

theorem meets_ofPolicy {τ : Type} (source : String) (policy : FetchPolicy τ) :
    Meets (fun _ => True) Failure.IsOfSettings (Fetcher.ofPolicy source policy) := by
  unfold Fetcher.ofPolicy
  by_cases hfew : policy.maxAttempts < 1
  · rw [if_pos hfew]
    exact .argument _
  · rw [if_neg hfew]
    trivial

theorem meets_openMeteo (context : Context) (settings : Settings) :
    Meets (fun _ => True) Failure.IsOfSettings (openMeteo context settings) := by
  unfold openMeteo
  cases settings.openMeteoStations? with
  | none => exact (meets_ofPolicy _ _).bind fun fetcher _ => trivial
  | some path =>
      have hpoints := (OpenMeteo.meets_pointsOfFile (context.files path) Json.maxRoom).mono
        fun _ => Failure.IsOfTable.isOfSettings
      refine hpoints.bind fun points _ => ?_
      exact (meets_ofPolicy _ _).bind fun fetcher _ => trivial

/-- A built-in provider fails to be made for a bad setting or a bad file only. -/
theorem failsOnly_create (context : Context) (settings : Settings) :
    ∀ entry ∈ registry context, (entry.2.create settings).FailsOnly Failure.IsOfSettings := by
  intro entry hentry
  simp only [registry, List.mem_cons, List.not_mem_nil, or_false] at hentry
  rcases hentry with rfl | rfl | rfl
  · exact Logged.failsOnly_lift ((meets_ofPolicy _ _).bind fun fetcher _ => trivial)
  · exact Logged.failsOnly_lift ((meets_ofPolicy _ _).bind fun fetcher _ => trivial)
  · exact Logged.failsOnly_lift (meets_openMeteo context settings)

end Provider

end AirQuality
