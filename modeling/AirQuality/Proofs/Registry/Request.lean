import AirQuality.Proofs.Registry
import AirQuality.Proofs.Registry.History
import AirQuality.Proofs.Summary.Keys
import Mathlib.Data.List.Sort
import Mathlib.Data.String.Basic

/-!
# Requests for adapters

Who asks for adapters names sources.  If a name is not known, nothing is made.  Else the factories
of the named sources are called, each once and in the order in which the sources are listed,
however the names were given.  A factory may write to the log what it likes, and what is said holds
of all factories, so that it tells which of them are called, how often and in which order.
-/

namespace AirQuality

/-! ### Work that writes entries -/

namespace Logged

variable {α β : Type} {work : Logged α} {entries after : List Log.Entry}

theorem bind_of_ok {value : α} (hwork : work entries = (.ok value, after)) (next : α → Logged β) :
    (work >>= next) entries = next value after := by
  change ExceptT.bindCont next (work entries).1 (work entries).2 = _
  rw [hwork]
  rfl

theorem bind_of_error {failure : Failure} (hwork : work entries = (.error failure, after))
    (next : α → Logged β) : (work >>= next) entries = (.error failure, after) := by
  change ExceptT.bindCont next (work entries).1 (work entries).2 = _
  rw [hwork]
  rfl

end Logged

namespace SourceSpec

variable {α : Type}

/-- What is noted before a source is made. -/
def noted (kept : String) (spec : SourceSpec α) : List Log.Entry :=
  if spec.requiresKey then [⟨.debug, .registry, s!"{kept} requires an API key"⟩] else []

/-- A source whose factory does not fail, whatever is in the log. -/
def IsReliable (settings : Settings) (spec : SourceSpec α) : Prop :=
  ∀ entries, ∃ adapter after, spec.create settings entries = (.ok adapter, after)

end SourceSpec

namespace Registry

variable {α : Type} {history : List (Change α)} {registry : Registry α} {settings : Settings}
  {kept : String} {spec : SourceSpec α} {names others requested : List String}
  {entries after : List Log.Entry}

/-! ### Calls of factories -/

/-- Calls of factories in turn, which end with the first one that fails.  Each factory finds the log
as it was left before it, with what is noted of its source. -/
inductive Calls (registry : Registry α) (settings : Settings) :
    (called : List String) → (entries : List Log.Entry) → Except Failure (List α) →
      (after : List Log.Entry) → Prop
  | done (entries : List Log.Entry) : Calls registry settings [] entries (.ok []) entries
  | made {kept : String} {spec : SourceSpec α} {called : List String}
      {entries between after : List Log.Entry} {adapter : α} {outcome : Except Failure (List α)}
      (hspec : registry.lookup kept = some spec)
      (hcall : spec.create settings (entries ++ spec.noted kept) = (.ok adapter, between))
      (hrest : Calls registry settings called between outcome after) :
      Calls registry settings (kept :: called) entries (outcome.map (adapter :: ·)) after
  | failed {kept : String} {spec : SourceSpec α} {entries after : List Log.Entry}
      {failure : Failure} (hspec : registry.lookup kept = some spec)
      (hcall : spec.create settings (entries ++ spec.noted kept) = (.error failure, after)) :
      Calls registry settings [kept] entries (.error failure) after

/-- The source of a key is made from the log with what is noted of it. -/
theorem createOne_apply (hspec : registry.lookup kept = some spec) (entries : List Log.Entry) :
    registry.createOne settings kept entries =
      ((fun adapter => [adapter]) <$> spec.create settings) (entries ++ spec.noted kept) := by
  rw [createOne, hspec, map_eq_pure_bind]
  cases hkey : spec.requiresKey with
  | true =>
    have hnote : Logged.note ⟨.debug, .registry, s!"{kept} requires an API key"⟩ entries =
        (.ok (), entries ++ spec.noted kept) := by
      rw [SourceSpec.noted, if_pos hkey]
      rfl
    simp only [hkey, if_true]
    rw [Logged.bind_of_ok hnote]
  | false =>
    rw [SourceSpec.noted, if_neg (by simp [hkey]), List.append_nil]
    simp only [hkey, Bool.false_eq_true, if_false]

/-- Makes the adapters of some keys, whether they are listed or not. -/
def makeAll (registry : Registry α) (settings : Settings) (requested : List String) :
    Logged (List α) :=
  List.flatten <$> requested.mapM (registry.createOne settings)

theorem makeAll_cons (registry : Registry α) (settings : Settings) (kept : String)
    (rest : List String) :
    registry.makeAll settings (kept :: rest) = registry.createOne settings kept >>= fun first =>
      (first ++ ·) <$> registry.makeAll settings rest := by
  simp [makeAll, List.mapM_cons, functor_norm]

theorem makeAll_cons_of_ok (hspec : registry.lookup kept = some spec) {adapter : α}
    {between : List Log.Entry}
    (hcall : spec.create settings (entries ++ spec.noted kept) = (.ok adapter, between))
    (rest : List String) :
    registry.makeAll settings (kept :: rest) entries =
      ((registry.makeAll settings rest between).1.map (adapter :: ·),
        (registry.makeAll settings rest between).2) := by
  have hone : registry.createOne settings kept entries = (.ok [adapter], between) := by
    rw [createOne_apply hspec, Logged.map_apply, hcall]
    rfl
  rw [makeAll_cons, Logged.bind_of_ok hone, Logged.map_apply]
  rfl

theorem makeAll_cons_of_error (hspec : registry.lookup kept = some spec) {failure : Failure}
    (hcall : spec.create settings (entries ++ spec.noted kept) = (.error failure, after))
    (rest : List String) :
    registry.makeAll settings (kept :: rest) entries = (.error failure, after) := by
  have hone : registry.createOne settings kept entries = (.error failure, after) := by
    rw [createOne_apply hspec, Logged.map_apply, hcall]
    rfl
  rw [makeAll_cons, Logged.bind_of_error hone]

/-- The factories of registered sources are called in turn, up to the first that fails. -/
theorem exists_calls_makeAll (hregistered : ∀ kept ∈ requested, kept ∈ registry.keys)
    (entries : List Log.Entry) :
    ∃ called, Calls registry settings called entries (registry.makeAll settings requested entries).1
        (registry.makeAll settings requested entries).2 ∧
      called <+: requested ∧
      ∀ adapters, (registry.makeAll settings requested entries).1 = .ok adapters →
        called = requested := by
  induction requested generalizing entries with
  | nil => exact ⟨[], .done entries, List.prefix_rfl, fun _ _ => rfl⟩
  | cons kept rest ih =>
      obtain ⟨spec, hspec⟩ := exists_lookup_iff.mpr (hregistered kept List.mem_cons_self)
      rcases hcall : spec.create settings (entries ++ spec.noted kept) with
        ⟨failure | adapter, left⟩
      · rw [makeAll_cons_of_error hspec hcall]
        refine ⟨[kept], .failed hspec hcall, by simp, fun adapters hdone => ?_⟩
        cases hdone
      · have hrest := fun other hmem => hregistered other (List.mem_cons_of_mem kept hmem)
        obtain ⟨called, hcalls, hprefix, hall⟩ := ih hrest left
        rw [makeAll_cons_of_ok hspec hcall]
        refine ⟨kept :: called, .made hspec hcall hcalls,
          (List.prefix_cons_inj kept).mpr hprefix, fun adapters hdone => ?_⟩
        cases hmade : (registry.makeAll settings rest left).1 with
        | ok others => rw [hall others hmade]
        | error failure =>
            rw [hmade] at hdone
            cases hdone

/-- Reliable factories make an adapter each. -/
theorem exists_makeAll (hreliable : ∀ kept ∈ requested,
      ∃ spec, registry.lookup kept = some spec ∧ spec.IsReliable settings)
    (entries : List Log.Entry) :
    ∃ adapters, (registry.makeAll settings requested entries).1 = .ok adapters ∧
      adapters.length = requested.length := by
  induction requested generalizing entries with
  | nil => exact ⟨[], rfl, rfl⟩
  | cons kept rest ih =>
      obtain ⟨spec, hspec, hcreate⟩ := hreliable kept List.mem_cons_self
      obtain ⟨adapter, between, hcall⟩ := hcreate (entries ++ spec.noted kept)
      obtain ⟨adapters, hothers, hlength⟩ :=
        ih (fun other hmem => hreliable other (List.mem_cons_of_mem kept hmem)) between
      rw [makeAll_cons_of_ok hspec hcall, hothers]
      exact ⟨adapter :: adapters, rfl, congrArg Nat.succ hlength⟩

/-! ### Selection -/

theorem mem_missing {wanted : List String} :
    kept ∈ registry.missing wanted ↔ kept ∈ wanted ∧ kept ∉ registry.keys := by
  simp [missing]

theorem nodup_missing (registry : Registry α) (wanted : List String) :
    (registry.missing wanted).Nodup := by
  rw [missing, ← Contribution.distinct_eq_eraseDups, (List.mergeSort_perm _ _).nodup_iff]
  exact Contribution.nodup_distinct _

theorem sorted_missing (registry : Registry α) (wanted : List String) :
    (registry.missing wanted).Pairwise (· ≤ ·) :=
  List.pairwise_mergeSort' _ _

theorem increasing_missing (registry : Registry α) (wanted : List String) :
    (registry.missing wanted).Pairwise (· < ·) :=
  (sorted_missing registry wanted).imp₂ (fun _ _ => lt_of_le_of_ne)
    (nodup_missing registry wanted)

/-- The same keys are wanted under two lists of names. -/
def AreAlike (names others : List String) : Prop :=
  ∀ kept, kept ∈ names.map key ↔ kept ∈ others.map key

theorem missing_of_alike (halike : AreAlike names others) :
    registry.missing (names.map key) = registry.missing (others.map key) := by
  have hperm : (registry.missing (names.map key)).Perm (registry.missing (others.map key)) := by
    rw [List.perm_ext_iff_of_nodup (nodup_missing _ _) (nodup_missing _ _)]
    intro kept
    rw [mem_missing, mem_missing, halike kept]
  exact hperm.eq_of_pairwise' (sorted_missing _ _) (sorted_missing _ _)

theorem selected_of_alike (halike : AreAlike names others) :
    registry.selected (some names) = registry.selected (some others) := by
  have hwanted : (names.map key).contains = (others.map key).contains := by
    funext kept
    rw [Bool.eq_iff_iff, List.contains_iff_mem, List.contains_iff_mem, halike kept]
  simp only [selected, missing_of_alike halike, hwanted]

theorem selected_of_registered (hregistered : ∀ name ∈ names, key name ∈ registry.keys) :
    registry.selected (some names) =
      .ok (registry.sources.filter (names.map key).contains) := by
  have hmissing : registry.missing (names.map key) = [] := by
    rw [List.eq_nil_iff_forall_not_mem]
    intro kept hkept
    obtain ⟨hwanted, habsent⟩ := mem_missing.mp hkept
    obtain ⟨name, hname, rfl⟩ := List.mem_map.mp hwanted
    exact habsent (hregistered name hname)
  simp only [selected, hmissing]

theorem selected_of_unregistered (hunregistered : ∃ name ∈ names, key name ∉ registry.keys) :
    registry.selected (some names) = .error
      (.argument (.unknownSources (registry.missing (names.map key)) registry.sources)) := by
  obtain ⟨name, hname, habsent⟩ := hunregistered
  have hmem : key name ∈ registry.missing (names.map key) :=
    mem_missing.mpr ⟨List.mem_map_of_mem hname, habsent⟩
  cases hmissing : registry.missing (names.map key) with
  | nil => simp [hmissing] at hmem
  | cons first rest => simp only [selected, hmissing]

/-- All sources may be asked for by their names. -/
theorem selected_sources (hkept : ∀ kept ∈ registry.keys, key kept = kept) :
    registry.selected (some registry.sources) = registry.selected none := by
  have hkeys : registry.sources.map key = registry.sources :=
    calc registry.sources.map key = registry.sources.map id :=
          List.map_congr_left fun kept hmem => hkept kept (mem_sources.mp hmem)
      _ = registry.sources := List.map_id _
  have hregistered : ∀ name ∈ registry.sources, key name ∈ registry.keys := by
    intro name hname
    have hmem := mem_sources.mp hname
    rwa [hkept name hmem]
  rw [selected_of_registered hregistered, hkeys, selected,
    List.filter_eq_self.mpr fun kept hmem => List.contains_iff_mem.mpr hmem]

theorem key_of_isRegistered (hregistered : IsRegistered history kept) : key kept = kept := by
  obtain ⟨earlier, spec, name, later, rfl, -⟩ := hregistered
  exact key_key name

/-! ### Requests -/

theorem createAdapters_of_selected {names : Option (List String)}
    (hselected : registry.selected names = .ok requested) :
    registry.createAdapters names settings = registry.makeAll settings requested := by
  funext entries
  have hlift : Logged.lift (registry.selected names) entries = (.ok requested, entries) := by
    rw [hselected, Logged.lift]
  rw [createAdapters, Logged.bind_of_ok hlift, makeAll, map_eq_pure_bind]

theorem createAdapters_of_refused {names : Option (List String)} {failure : Failure}
    (hselected : registry.selected names = .error failure) (entries : List Log.Entry) :
    registry.createAdapters names settings entries = (.error failure, entries) := by
  have hlift : Logged.lift (registry.selected names) entries = (.error failure, entries) := by
    rw [hselected, Logged.lift]
  rw [createAdapters, Logged.bind_of_error hlift]

theorem createAdapters_of_selected_eq {names others : Option (List String)}
    (hsame : registry.selected names = registry.selected others) :
    registry.createAdapters names settings = registry.createAdapters others settings := by
  rw [createAdapters, createAdapters, hsame]

/-- A request is refused for some unknown names, and nothing is written or made. -/
def Refuses (registry : Registry α) (settings : Settings) (names missing : List String) : Prop :=
  ∀ entries, registry.createAdapters (some names) settings entries =
    (.error (.argument (.unknownSources missing registry.sources)), entries)

/-- The sources that some names ask for, as they are listed. -/
structure IsSelection (registry : Registry α) (names requested : List String) : Prop where
  distinct : requested.Nodup
  inOrder : requested.Sublist registry.sources
  asked (kept : String) : kept ∈ requested ↔ ∃ name ∈ names, key name = kept

/-- A request is served by the factories of some sources. -/
structure Serves (registry : Registry α) (settings : Settings) (names : Option (List String))
    (requested : List String) : Prop where
  /-- The factories are called one after the other, and all of them unless one fails. -/
  calls (entries : List Log.Entry) :
    ∃ called, Calls registry settings called entries
        (registry.createAdapters names settings entries).1
        (registry.createAdapters names settings entries).2 ∧
      called <+: requested ∧
      ∀ adapters, (registry.createAdapters names settings entries).1 = .ok adapters →
        called = requested
  /-- Factories that do not fail make an adapter each. -/
  returns (hreliable : ∀ kept ∈ requested, ∀ spec, registry.lookup kept = some spec →
      spec.IsReliable settings) (entries : List Log.Entry) :
    ∃ adapters, (registry.createAdapters names settings entries).1 = .ok adapters ∧
      adapters.length = requested.length

theorem serves_of_selected {names : Option (List String)}
    (hselected : registry.selected names = .ok requested)
    (hregistered : ∀ kept ∈ requested, kept ∈ registry.keys) :
    registry.Serves settings names requested where
  calls entries := by
    rw [createAdapters_of_selected hselected]
    exact exists_calls_makeAll hregistered entries
  returns hreliable entries := by
    rw [createAdapters_of_selected hselected]
    refine exists_makeAll (fun kept hmem => ?_) entries
    obtain ⟨spec, hspec⟩ := exists_lookup_iff.mpr (hregistered kept hmem)
    exact ⟨spec, hspec, hreliable kept hmem spec hspec⟩

theorem isSelection_filter (hdistinct : registry.keys.Nodup)
    (hregistered : ∀ name ∈ names, key name ∈ registry.keys) :
    registry.IsSelection names (registry.sources.filter (names.map key).contains) where
  distinct := (nodup_sources hdistinct).filter _
  inOrder := List.filter_sublist
  asked kept := by
    rw [List.mem_filter, List.contains_iff_mem, List.mem_map, mem_sources]
    constructor
    · exact And.right
    · rintro ⟨name, hname, rfl⟩
      exact ⟨hregistered name hname, name, hname, rfl⟩

/-- Whatever changes a registry went through, a request with an unknown name is refused and does
nothing else.  Any other request calls the factory of each source that it asks for once, in the
order in which the sources are listed, and makes no difference between two ways of asking for the
same sources.  To ask for no sources in particular is to ask for all that are listed. -/
theorem createAdapters_followsRequest (history : List (Change α)) (settings : Settings) :
    let registry := afterAll history []
    (∀ names, (∃ name ∈ names, ¬IsRegistered history (key name)) →
        ∃ missing, missing.Pairwise (· < ·) ∧
          (∀ kept, kept ∈ missing ↔
            (∃ name ∈ names, key name = kept) ∧ ¬IsRegistered history kept) ∧
          registry.Refuses settings names missing) ∧
      (∀ names, (∀ name ∈ names, IsRegistered history (key name)) →
        ∃ requested, registry.IsSelection names requested ∧
          registry.Serves settings (some names) requested) ∧
      registry.Serves settings none registry.sources ∧
      (∀ names others, AreAlike names others →
        registry.createAdapters (some names) settings =
          registry.createAdapters (some others) settings) ∧
      registry.createAdapters (some registry.sources) settings =
        registry.createAdapters none settings := by
  intro registry
  have hrecords : Records history registry := records_afterAll history
  refine ⟨fun names hunknown => ?_, fun names hknown => ?_, ?_, fun names others halike => ?_, ?_⟩
  · simp only [← hrecords.registered] at hunknown ⊢
    refine ⟨registry.missing (names.map key), increasing_missing _ _, fun kept => ?_, ?_⟩
    · rw [mem_missing, List.mem_map]
    · exact createAdapters_of_refused (selected_of_unregistered hunknown)
  · simp only [← hrecords.registered] at hknown
    have hselection := isSelection_filter hrecords.distinct hknown
    exact ⟨_, hselection, serves_of_selected (selected_of_registered hknown)
      fun kept hmem => mem_sources.mp (hselection.inOrder.subset hmem)⟩
  · exact serves_of_selected rfl fun kept => mem_sources.mp
  · exact createAdapters_of_selected_eq (selected_of_alike halike)
  · exact createAdapters_of_selected_eq (selected_sources fun kept hmem =>
      key_of_isRegistered ((hrecords.registered kept).mp hmem))

/-- A source whose factory says that it is called. -/
def talking (displayName : String) (requiresKey : Bool) : SourceSpec String where
  displayName := displayName
  requiresKey := requiresKey
  create _ := do
    Logged.note ⟨.info, .registry, displayName⟩
    pure displayName

def introductions : List (Change String) :=
  [.register "zzz" (talking "Z" false), .register "Gios" (talking "GIOS" true)]

/-- Two sources are asked for in other orders and spellings, and one that is not there. -/
theorem createAdapters_followsRequest_introductions :
    let registry := afterAll introductions []
    (registry.createAdapters (some ["zzz", " gios", "Zzz"]) .defaults []).2 =
        [⟨.debug, .registry, "GIOS requires an API key"⟩, ⟨.info, .registry, "GIOS"⟩,
          ⟨.info, .registry, "Z"⟩] ∧
      registry.createAdapters (some ["GIOS", "ZZZ"]) .defaults =
        registry.createAdapters (some ["zzz", " gios", "Zzz"]) .defaults ∧
      ∃ missing, "AURN" ∈ missing ∧ registry.Refuses .defaults ["gios", "aurn"] missing := by
  intro registry
  obtain ⟨hrefuses, -, -, halike, -⟩ := createAdapters_followsRequest introductions .defaults
  have hunknown : ¬IsRegistered introductions "AURN" := by
    rw [← (records_afterAll introductions).registered]
    decide +kernel
  have haurn : key "aurn" = "AURN" := by decide +kernel
  refine ⟨by decide +kernel, halike _ _ ?_, ?_⟩
  · have hnames : ["GIOS", "ZZZ"].map key = ["GIOS", "ZZZ"] := by decide +kernel
    have hothers : ["zzz", " gios", "Zzz"].map key = ["ZZZ", "GIOS", "ZZZ"] := by decide +kernel
    intro kept
    rw [hnames, hothers]
    simp only [List.mem_cons, List.not_mem_nil, or_false]
    tauto
  · obtain ⟨missing, -, hmissing, hrefused⟩ :=
      hrefuses ["gios", "aurn"] ⟨"aurn", by simp, haurn ▸ hunknown⟩
    exact ⟨missing, (hmissing "AURN").mpr ⟨⟨"aurn", by simp, haurn⟩, hunknown⟩, hrefused⟩

end Registry

/-- The built-in registry is what comes of registering the three providers. -/
theorem Provider.registry_eq_afterAll (context : Context) :
    registry context = Registry.afterAll
      [.register Gios.name (spec "GIOS" false (gios context)),
        .register OpenAq.name (spec "OpenAQ" true (openAq context)),
        .register OpenMeteo.name (spec "Open-Meteo" false (openMeteo context))] [] := by
  have hgios : Registry.key Gios.name = Gios.name := by decide +kernel
  have hopenAq : Registry.key OpenAq.name = OpenAq.name := by decide +kernel
  have hopenMeteo : Registry.key OpenMeteo.name = OpenMeteo.name := by decide +kernel
  simp only [Registry.afterAll, List.foldl_cons, List.foldl_nil, Registry.Change.after,
    Registry.register, hgios, hopenAq, hopenMeteo]
  rfl

end AirQuality
