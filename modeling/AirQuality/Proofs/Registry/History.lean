import AirQuality.Proofs.Registry.Spelling
import AirQuality.Registry.Change
import Mathlib.Data.List.Induction
import Mathlib.Data.List.Nodup
import Mathlib.Data.List.Pairwise

/-!
# A registry and its history

What is in a registry is what its history says: the sources registered and not removed since, each
as it was registered last, in the order in which they joined.  A source registered again keeps its
place, and one that was removed joins anew.
-/

namespace AirQuality

/-! ### Names with values -/

namespace Named

variable {β : Type}

theorem names_set (name : String) (value : β) (values : List (String × β)) :
    (set name value values).map (·.1) =
      if name ∈ values.map (·.1) then values.map (·.1) else values.map (·.1) ++ [name] := by
  induction values with
  | nil => rfl
  | cons first rest ih =>
      obtain ⟨taken, old⟩ := first
      by_cases hfound : taken = name
      · simp [set, hfound]
      · by_cases hrest : name ∈ rest.map (·.1)
        · simp [set, hfound, ih, hrest]
        · simp [set, hfound, Ne.symm hfound, ih, hrest]

theorem lookup_filter_ne (name other : String) (values : List (String × β)) :
    (values.filter fun entry => entry.1 ≠ name).lookup other =
      if other = name then none else values.lookup other := by
  induction values with
  | nil => simp
  | cons first rest ih =>
      obtain ⟨taken, value⟩ := first
      by_cases hname : taken = name
      · rw [List.filter_cons_of_neg (by simp [hname]), ih]
        by_cases hother : other = name
        · rw [if_pos hother, if_pos hother]
        · rw [if_neg hother, if_neg hother, List.lookup_cons, hname, beq_false_of_ne hother]
      · rw [List.filter_cons_of_pos (by simp [hname]), List.lookup_cons, List.lookup_cons, ih]
        cases hsame : other == taken with
        | true =>
            have hother : other ≠ name := by
              rintro rfl
              exact hname (beq_iff_eq.mp hsame).symm
            exact (if_neg hother).symm
        | false => rfl

end Named

namespace Registry

variable {α : Type} {history earlier : List (Change α)} {change : Change α} {registry : Registry α}
  {kept : String} {spec : SourceSpec α} {place : Nat}

/-! ### What a history says of a name -/

/-- A registration under a name, which is given as it is kept. -/
def Change.Registers (kept : String) (change : Change α) : Prop :=
  ∃ name spec, key name = kept ∧ change = .register name spec

/-- A change that leaves no source under a name. -/
def Change.Removes (kept : String) : Change α → Prop
  | .register _ _ => False
  | .unregister name => key name = kept
  | .clear => True

/-- A change of what is under a name. -/
def Change.Concerns (kept : String) : Change α → Prop
  | .register name _ => key name = kept
  | .unregister name => key name = kept
  | .clear => True

/-- A registration under a name that comes after some changes and before changes of a kind only. -/
def Lasts (isOfKind : Change α → Prop) (history earlier : List (Change α)) (kept : String)
    (spec : SourceSpec α) : Prop :=
  ∃ name later, key name = kept ∧ history = earlier ++ .register name spec :: later ∧
    ∀ change ∈ later, isOfKind change

/-- A source was registered under a name and has not been removed since. -/
def IsRegistered (history : List (Change α)) (kept : String) : Prop :=
  ∃ earlier spec, Lasts (¬·.Removes kept) history earlier kept spec

/-- A source was registered under a name, and no change has concerned the name since. -/
def IsLatest (history : List (Change α)) (kept : String) (spec : SourceSpec α) : Prop :=
  ∃ earlier, Lasts (¬·.Concerns kept) history earlier kept spec

/-- The place in a history of a registration under a name under which there was no source, and
which has not been removed since. -/
def IsJoinedAt (history : List (Change α)) (kept : String) (place : Nat) : Prop :=
  ∃ earlier spec, Lasts (¬·.Removes kept) history earlier kept spec ∧ earlier.length = place ∧
    ¬IsRegistered earlier kept

/-- A name has joined before another one. -/
def JoinedBefore (history : List (Change α)) (first second : String) : Prop :=
  ∀ place later, IsJoinedAt history first place → IsJoinedAt history second later → place < later

theorem not_lasts_nil (isOfKind : Change α → Prop) : ¬Lasts isOfKind [] earlier kept spec := by
  rintro ⟨name, later, -, hsplit, -⟩
  simp at hsplit

/-- One more change is the registration itself, or one of the kind that may follow it. -/
theorem lasts_append_singleton {isOfKind : Change α → Prop} :
    Lasts isOfKind (history ++ [change]) earlier kept spec ↔
      (earlier = history ∧ ∃ name, key name = kept ∧ change = .register name spec) ∨
        (isOfKind change ∧ Lasts isOfKind history earlier kept spec) := by
  constructor
  · rintro ⟨name, later, hkey, hsplit, hlater⟩
    rcases List.eq_nil_or_concat later with rfl | ⟨rest, last, rfl⟩
    · obtain ⟨rfl, hlast⟩ := List.append_inj' hsplit rfl
      exact .inl ⟨rfl, name, hkey, (List.cons.inj hlast).1⟩
    · rw [List.concat_eq_append, ← List.cons_append, ← List.append_assoc] at hsplit
      obtain ⟨rfl, hlast⟩ := List.append_inj' hsplit rfl
      obtain ⟨rfl, -⟩ := List.cons.inj hlast
      rw [List.concat_eq_append] at hlater
      exact .inr ⟨hlater _ (by simp), name, rest, hkey, rfl,
        fun change hmem => hlater change (List.mem_append_left _ hmem)⟩
  · rintro (⟨rfl, name, hkey, rfl⟩ | ⟨hchange, name, later, hkey, rfl, hlater⟩)
    · exact ⟨name, [], hkey, rfl, by simp⟩
    · refine ⟨name, later ++ [change], hkey, by simp, fun other hmem => ?_⟩
      rcases List.mem_append.mp hmem with hearlier | hlast
      · exact hlater other hearlier
      · exact List.mem_singleton.mp hlast ▸ hchange

theorem registers_register {name : String} :
    (Change.register name spec).Registers kept ↔ key name = kept := by
  constructor
  · rintro ⟨other, otherSpec, hkey, hsame⟩
    cases hsame
    exact hkey
  · exact fun hkey => ⟨name, spec, hkey, rfl⟩

theorem not_registers_unregister {name : String} :
    ¬(Change.unregister name : Change α).Registers kept := by
  rintro ⟨other, spec, -, hsame⟩
  cases hsame

theorem not_registers_clear : ¬(Change.clear : Change α).Registers kept := by
  rintro ⟨other, spec, -, hsame⟩
  cases hsame

theorem isRegistered_append_singleton :
    IsRegistered (history ++ [change]) kept ↔
      change.Registers kept ∨ (¬change.Removes kept ∧ IsRegistered history kept) := by
  simp only [IsRegistered, lasts_append_singleton, Change.Registers]
  constructor
  · rintro ⟨earlier, spec, ⟨-, name, hkey, hchange⟩ | ⟨hstays, hlasts⟩⟩
    · exact .inl ⟨name, spec, hkey, hchange⟩
    · exact .inr ⟨hstays, earlier, spec, hlasts⟩
  · rintro (⟨name, spec, hkey, hchange⟩ | ⟨hstays, earlier, spec, hlasts⟩)
    · exact ⟨history, spec, .inl ⟨rfl, name, hkey, hchange⟩⟩
    · exact ⟨earlier, spec, .inr ⟨hstays, hlasts⟩⟩

theorem isLatest_append_singleton :
    IsLatest (history ++ [change]) kept spec ↔
      (∃ name, key name = kept ∧ change = .register name spec) ∨
        (¬change.Concerns kept ∧ IsLatest history kept spec) := by
  simp only [IsLatest, lasts_append_singleton]
  constructor
  · rintro ⟨earlier, ⟨-, hchange⟩ | ⟨hstays, hlasts⟩⟩
    · exact .inl hchange
    · exact .inr ⟨hstays, earlier, hlasts⟩
  · rintro (hchange | ⟨hstays, earlier, hlasts⟩)
    · exact ⟨history, .inl ⟨rfl, hchange⟩⟩
    · exact ⟨earlier, .inr ⟨hstays, hlasts⟩⟩

theorem isJoinedAt_append_singleton :
    IsJoinedAt (history ++ [change]) kept place ↔
      (change.Registers kept ∧ ¬IsRegistered history kept ∧ place = history.length) ∨
        (¬change.Removes kept ∧ IsJoinedAt history kept place) := by
  simp only [IsJoinedAt, lasts_append_singleton, Change.Registers]
  constructor
  · rintro ⟨earlier, spec, ⟨rfl, name, hkey, hchange⟩ | ⟨hstays, hlasts⟩, hplace, hnew⟩
    · exact .inl ⟨⟨name, spec, hkey, hchange⟩, hnew, hplace.symm⟩
    · exact .inr ⟨hstays, earlier, spec, hlasts, hplace, hnew⟩
  · rintro (⟨⟨name, spec, hkey, hchange⟩, hnew, hplace⟩ |
      ⟨hstays, earlier, spec, hlasts, hplace, hnew⟩)
    · exact ⟨history, spec, .inl ⟨rfl, name, hkey, hchange⟩, hplace.symm, hnew⟩
    · exact ⟨earlier, spec, .inr ⟨hstays, hlasts⟩, hplace, hnew⟩

theorem not_isRegistered_nil (kept : String) : ¬IsRegistered ([] : List (Change α)) kept := by
  rintro ⟨earlier, spec, hlasts⟩
  exact not_lasts_nil _ hlasts

theorem IsJoinedAt.isRegistered (hjoined : IsJoinedAt history kept place) :
    IsRegistered history kept := by
  obtain ⟨earlier, spec, hlasts, -⟩ := hjoined
  exact ⟨earlier, spec, hlasts⟩

theorem IsJoinedAt.lt_length (hjoined : IsJoinedAt history kept place) :
    place < history.length := by
  obtain ⟨earlier, spec, ⟨name, later, -, rfl, -⟩, rfl, -⟩ := hjoined
  simp

/-- A name that is registered does not join again. -/
theorem IsJoinedAt.of_append_singleton (hregistered : IsRegistered history kept)
    (hjoined : IsJoinedAt (history ++ [change]) kept place) : IsJoinedAt history kept place := by
  rcases isJoinedAt_append_singleton.mp hjoined with ⟨-, hnew, -⟩ | ⟨-, hearlier⟩
  · exact absurd hregistered hnew
  · exact hearlier

/-- A name that is registered has joined at one place. -/
theorem IsRegistered.existsUnique_place (hregistered : IsRegistered history kept) :
    ∃! place, IsJoinedAt history kept place := by
  induction history using List.reverseRecOn with
  | nil => exact absurd hregistered (not_isRegistered_nil kept)
  | append_singleton history change ih =>
      by_cases hbefore : IsRegistered history kept
      · have hstays : ¬change.Removes kept := by
          rcases isRegistered_append_singleton.mp hregistered with
            ⟨name, spec, -, rfl⟩ | ⟨hstays, -⟩
          · exact id
          · exact hstays
        obtain ⟨place, hplace, honly⟩ := ih hbefore
        exact ⟨place, isJoinedAt_append_singleton.mpr (.inr ⟨hstays, hplace⟩),
          fun other hother => honly other (hother.of_append_singleton hbefore)⟩
      · have hregisters : change.Registers kept := by
          rcases isRegistered_append_singleton.mp hregistered with hregisters | ⟨-, hearlier⟩
          · exact hregisters
          · exact absurd hearlier hbefore
        refine ⟨history.length,
          isJoinedAt_append_singleton.mpr (.inl ⟨hregisters, hbefore, rfl⟩), fun other hother => ?_⟩
        rcases isJoinedAt_append_singleton.mp hother with ⟨-, -, hplace⟩ | ⟨-, hearlier⟩
        · exact hplace
        · exact absurd hearlier.isRegistered hbefore

/-! ### Changes of a registry -/

theorem afterAll_append_singleton :
    afterAll (history ++ [change]) registry = change.after (afterAll history registry) :=
  List.foldl_append

theorem keys_register (registry : Registry α) (name : String) (spec : SourceSpec α) :
    (registry.register name spec).keys =
      if key name ∈ registry.keys then registry.keys else registry.keys ++ [key name] :=
  Named.names_set (key name) spec registry

theorem mem_keys_register {name : String} :
    kept ∈ (registry.register name spec).keys ↔ kept = key name ∨ kept ∈ registry.keys := by
  rw [keys_register]
  split
  case isTrue hmem =>
    constructor
    · exact .inr
    · rintro (rfl | hkept)
      · exact hmem
      · exact hkept
  case isFalse => rw [List.mem_append, List.mem_singleton, or_comm]

theorem keys_unregister (registry : Registry α) (name : String) :
    (registry.unregister name).keys = registry.keys.filter (· ≠ key name) := by
  rw [unregister, keys, keys, List.filter_map, Function.comp_def]

theorem lookup_register (registry : Registry α) (name : String) (spec : SourceSpec α) :
    (registry.register name spec).lookup kept =
      if kept = key name then some spec else registry.lookup kept :=
  Named.lookup_set (key name) kept spec registry

theorem lookup_unregister (registry : Registry α) (name : String) :
    (registry.unregister name).lookup kept =
      if kept = key name then none else registry.lookup kept :=
  Named.lookup_filter_ne (key name) kept registry

/-- A registry is what its history says. -/
structure Records (history : List (Change α)) (registry : Registry α) : Prop where
  distinct : registry.keys.Nodup
  registered (kept : String) : kept ∈ registry.keys ↔ IsRegistered history kept
  inOrder : registry.keys.Pairwise (JoinedBefore history)
  latest (kept : String) (spec : SourceSpec α) :
    registry.lookup kept = some spec ↔ IsLatest history kept spec

theorem records_nil : Records [] ([] : Registry α) where
  distinct := List.nodup_nil
  registered kept := iff_of_false List.not_mem_nil (not_isRegistered_nil kept)
  inOrder := List.Pairwise.nil
  latest kept spec := by
    constructor
    · intro hspec
      cases hspec
    · rintro ⟨earlier, hlasts⟩
      exact absurd hlasts (not_lasts_nil _)

theorem Records.inOrder_append_singleton (hrecords : Records history registry) :
    registry.keys.Pairwise (JoinedBefore (history ++ [change])) := by
  apply hrecords.inOrder.imp_of_mem
  intro first second hfirst hsecond hbefore place later hplace hlater
  exact hbefore place later
    (hplace.of_append_singleton ((hrecords.registered first).mp hfirst))
    (hlater.of_append_singleton ((hrecords.registered second).mp hsecond))

/-- A name that is registered has joined before one that joins now. -/
theorem joinedBefore_of_new {first : String} {name : String}
    (hfirst : IsRegistered history first) (hnew : ¬IsRegistered history (key name)) :
    JoinedBefore (history ++ [.register name spec]) first (key name) := by
  intro place later hplace hlater
  have hlast : later = history.length := by
    rcases isJoinedAt_append_singleton.mp hlater with ⟨-, -, hlast⟩ | ⟨-, hearlier⟩
    · exact hlast
    · exact absurd hearlier.isRegistered hnew
  exact hlast ▸ (hplace.of_append_singleton hfirst).lt_length

theorem Records.register (hrecords : Records history registry) (name : String)
    (spec : SourceSpec α) :
    Records (history ++ [.register name spec]) (registry.register name spec) where
  distinct := by
    rw [keys_register]
    split
    case isTrue => exact hrecords.distinct
    case isFalse hnew => exact List.concat_eq_append ▸ hrecords.distinct.concat hnew
  registered kept := by
    rw [mem_keys_register, isRegistered_append_singleton, registers_register, hrecords.registered,
      eq_comm]
    simp [Change.Removes]
  inOrder := by
    rw [keys_register]
    split
    case isTrue => exact hrecords.inOrder_append_singleton
    case isFalse hnew =>
      refine List.pairwise_append.mpr ⟨hrecords.inOrder_append_singleton,
        List.pairwise_singleton _ _, fun first hfirst second hsecond => ?_⟩
      rw [List.mem_singleton.mp hsecond]
      exact joinedBefore_of_new ((hrecords.registered first).mp hfirst)
        (mt (hrecords.registered _).mpr hnew)
  latest kept latest := by
    rw [lookup_register, isLatest_append_singleton]
    by_cases hkept : kept = key name
    · simp [hkept, Change.Concerns]
    · simp [hkept, Ne.symm hkept, Change.Concerns, hrecords.latest]

theorem Records.unregister (hrecords : Records history registry) (name : String) :
    Records (history ++ [.unregister name]) (registry.unregister name) where
  distinct := by
    rw [keys_unregister]
    exact hrecords.distinct.filter _
  registered kept := by
    rw [keys_unregister, List.mem_filter, hrecords.registered, isRegistered_append_singleton]
    simp only [decide_eq_true_eq, not_registers_unregister, Change.Removes, false_or]
    rw [and_comm, ne_comm]
  inOrder := by
    rw [keys_unregister]
    exact hrecords.inOrder_append_singleton.filter _
  latest kept spec := by
    rw [lookup_unregister, isLatest_append_singleton]
    by_cases hkept : kept = key name
    · simp [hkept, Change.Concerns]
    · simp [hkept, Ne.symm hkept, Change.Concerns, hrecords.latest]

theorem records_clear (history : List (Change α)) :
    Records (history ++ [.clear]) ([] : Registry α) where
  distinct := List.nodup_nil
  registered kept := by
    simp [keys, isRegistered_append_singleton, not_registers_clear, Change.Removes]
  inOrder := List.Pairwise.nil
  latest kept spec := by simp [isLatest_append_singleton, Change.Concerns]

theorem Records.after (hrecords : Records history registry) (change : Change α) :
    Records (history ++ [change]) (change.after registry) := by
  cases change with
  | register name spec => exact hrecords.register name spec
  | unregister name => exact hrecords.unregister name
  | clear => exact records_clear history

theorem records_afterAll (history : List (Change α)) : Records history (afterAll history []) := by
  induction history using List.reverseRecOn with
  | nil => exact records_nil
  | append_singleton history change ih =>
      rw [afterAll_append_singleton]
      exact ih.after change

/-! ### What a registry tells -/

theorem contains_iff {name : String} : registry.contains name = true ↔ key name ∈ registry.keys :=
  List.contains_iff_mem

theorem exists_lookup_iff : (∃ spec, registry.lookup kept = some spec) ↔ kept ∈ registry.keys := by
  simp only [← Option.isSome_iff_exists, List.lookup_isSome_iff, keys, List.mem_map, beq_iff_eq,
    eq_comm (a := kept)]

theorem mem_sources : kept ∈ registry.sources ↔ kept ∈ registry.keys := by
  by_cases hbuiltin : kept ∈ builtinSources <;> simp [sources, hbuiltin]

theorem nodup_sources (hdistinct : registry.keys.Nodup) : registry.sources.Nodup := by
  have hbuiltin : builtinSources.Nodup := by decide
  refine (hbuiltin.filter _).append (hdistinct.filter _) fun kept hfirst hother => ?_
  simp [(List.mem_filter.mp hfirst).1] at hother

theorem length_notices (history : List (Change α)) (registry : Registry α) :
    (notices history registry).length = history.length := by
  induction history generalizing registry with
  | nil => rfl
  | cons change rest ih => exact congrArg Nat.succ (ih _)

theorem notices_append (history more : List (Change α)) (registry : Registry α) :
    notices (history ++ more) registry =
      notices history registry ++ notices more (afterAll history registry) := by
  induction history generalizing registry with
  | nil => rfl
  | cons change rest ih => exact congrArg (List.cons _) (ih _)

/-- A change tells what it tells of the registry that it finds. -/
theorem getElem?_notices (earlier : List (Change α)) (change : Change α)
    (later : List (Change α)) (registry : Registry α) :
    (notices (earlier ++ change :: later) registry)[earlier.length]? =
      some (change.notice (afterAll earlier registry)) := by
  rw [notices_append, List.getElem?_append_right (length_notices earlier registry).le,
    length_notices, Nat.sub_self]
  rfl

/-- The names that a history leaves, in the order in which they are listed. -/
structure IsListing (history : List (Change α)) (listed : List String) : Prop where
  distinct : listed.Nodup
  registered (kept : String) : kept ∈ listed ↔ IsRegistered history kept
  /-- Each name has joined at one place in the history. -/
  placed : ∀ kept ∈ listed, ∃! place, IsJoinedAt history kept place
  /-- The built-in names come first, in their own order, and the others follow as they joined. -/
  inOrder : ∃ builtin others, listed = builtin ++ others ∧
    builtin.Sublist ["GIOS", "OPENAQ", "OPEN_METEO"] ∧
    (∀ kept ∈ others, kept ∉ ["GIOS", "OPENAQ", "OPEN_METEO"]) ∧
    others.Pairwise (JoinedBefore history)

theorem Records.isListing (hrecords : Records history registry) :
    IsListing history registry.sources where
  distinct := nodup_sources hrecords.distinct
  registered kept := mem_sources.trans (hrecords.registered kept)
  placed kept hkept :=
    ((hrecords.registered kept).mp (mem_sources.mp hkept)).existsUnique_place
  inOrder := by
    refine ⟨_, _, rfl, List.filter_sublist, fun kept hother => ?_, hrecords.inOrder.filter _⟩
    have hapart := (List.mem_filter.mp hother).2
    simpa [builtinSources] using hapart

/-- Whatever changes an empty registry goes through, the sources are those registered and not
removed since, the built-in ones first and the others in the order in which they joined.  By any
spelling of its name a source is found as it was registered last, and a removal says whether there
was something to remove. -/
theorem sources_followHistory (history : List (Change α)) :
    let registry := afterAll history []
    IsListing history registry.sources ∧
      (∀ name spec, registry.find? name = some spec ↔ IsLatest history (key name) spec) ∧
      (∀ name, (∃ spec, registry.find? name = some spec) ↔ IsRegistered history (key name)) ∧
      (∀ name spelling, IsSpelling name spelling →
        registry.find? spelling = registry.find? name) ∧
      ∀ earlier name later, history = earlier ++ .unregister name :: later →
        ∃ found, (notices history [])[earlier.length]? = some (.removed found) ∧
          (found = true ↔ IsRegistered earlier (key name)) := by
  intro registry
  have hrecords : Records history registry := records_afterAll history
  refine ⟨hrecords.isListing, fun name => hrecords.latest (key name), fun name => ?_,
    fun name spelling hspelling => ?_, fun earlier name later hsplit => ?_⟩
  · rw [find?, exists_lookup_iff, hrecords.registered]
  · rw [find?, find?, hspelling.key_eq]
  · refine ⟨(afterAll earlier []).contains name, ?_, ?_⟩
    · rw [hsplit, getElem?_notices, Change.notice]
    · rw [contains_iff, (records_afterAll earlier).registered]

/-- A source that is shown under a name and made without ado. -/
def plain (displayName : String) : SourceSpec Unit := ⟨displayName, false, fun _ => pure ()⟩

/-- One source is removed and joins anew, and another one is registered again in its place. -/
def returning : List (Change Unit) :=
  [.register "zzz" (plain "Z"), .register "Open-Meteo" (plain "Open-Meteo"),
    .register "aurn" (plain "AURN"), .register " gios" (plain "GIOS"), .unregister "ZZZ ",
    .register "Aurn" (plain "AURN anew"), .register "zzz" (plain "Z anew")]

theorem sources_followHistory_returning :
    (afterAll returning []).sources = ["GIOS", "OPEN_METEO", "AURN", "ZZZ"] ∧
      (afterAll returning []).find? (String.ofList (['\u3000'] ++ "aurn".toList ++ [])) =
        some (plain "AURN anew") ∧
      (notices returning [])[4]? = some (.removed true) := by
  obtain ⟨-, hlatest, -, hspelling, hremoved⟩ := sources_followHistory returning
  refine ⟨by decide +kernel, ?_, ?_⟩
  · rw [hspelling "aurn" _ (.between ['\u3000'] [] (by decide) rfl), hlatest]
    refine ⟨returning.take 5, "Aurn", returning.drop 6, by decide +kernel, rfl, ?_⟩
    rintro change hchange
    rw [show returning.drop 6 = [.register "zzz" (plain "Z anew")] from rfl] at hchange
    rw [List.mem_singleton.mp hchange, Change.Concerns]
    decide +kernel
  · obtain ⟨found, hnotice, hfound⟩ := hremoved (returning.take 4) "ZZZ " (returning.drop 5) rfl
    have hregistered : IsRegistered (returning.take 4) (key "ZZZ ") := by
      refine ⟨[], plain "Z", "zzz", (returning.take 4).drop 1, by decide +kernel, rfl, ?_⟩
      simp [returning, Change.Removes]
    rw [hfound.mpr hregistered] at hnotice
    exact hnotice

end Registry

end AirQuality
