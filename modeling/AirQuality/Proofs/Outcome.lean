import AirQuality.Failure
import Mathlib.Data.List.Forall2

/-!
# Outcomes in a row

Work that may fail goes on with a value and stops at a failure.  Reading a list of items comes to
the list of what they are read as, and fails at the first item that cannot be read.
-/

namespace AirQuality.Outcome

variable {α β : Type}

@[simp]
theorem ok_bind (value : α) (next : α → Except Failure β) :
    (Except.ok value >>= next) = next value := rfl

@[simp]
theorem error_bind (failure : Failure) (next : α → Except Failure β) :
    (Except.error failure >>= next) = .error failure := rfl

@[simp]
theorem pure_eq_ok (value : α) : (pure value : Except Failure α) = .ok value := rfl

theorem mapM_ok (read : α → β) (items : List α) :
    (items.mapM fun item => (.ok (read item) : Except Failure β)) = .ok (items.map read) :=
  List.mapM_pure

theorem mapM_eq_ok_map {read : α → Except Failure β} {value : α → β} {items : List α}
    (hread : ∀ item ∈ items, read item = .ok (value item)) :
    items.mapM read = .ok (items.map value) := by
  induction items with
  | nil => rfl
  | cons item rest ih =>
      rw [List.mapM_cons, hread item List.mem_cons_self, ok_bind,
        ih fun other hother => hread other (List.mem_cons_of_mem item hother)]
      rfl

theorem exists_mapM {read : α → Except Failure β} {items : List α}
    (hread : ∀ item ∈ items, ∃ value, read item = .ok value) :
    ∃ values, items.mapM read = .ok values := by
  induction items with
  | nil => exact ⟨[], rfl⟩
  | cons item rest ih =>
      obtain ⟨value, hitem⟩ := hread item List.mem_cons_self
      obtain ⟨others, hrest⟩ :=
        ih fun other hother => hread other (List.mem_cons_of_mem item hother)
      refine ⟨value :: others, ?_⟩
      rw [List.mapM_cons, hitem, ok_bind, hrest]
      rfl

/-- A list is read item by item. -/
theorem mapM_cons_eq_ok {read : α → Except Failure β} {item : α} {rest : List α}
    {values : List β} (hread : (item :: rest).mapM read = .ok values) :
    ∃ value others, read item = .ok value ∧ rest.mapM read = .ok others ∧
      values = value :: others := by
  rw [List.mapM_cons] at hread
  cases hitem : read item with
  | error failure =>
      rw [hitem] at hread
      cases hread
  | ok value =>
      cases hrest : rest.mapM read with
      | error failure =>
          rw [hitem, hrest] at hread
          cases hread
      | ok others =>
          rw [hitem, hrest] at hread
          cases hread
          exact ⟨value, others, rfl, rfl, rfl⟩

theorem eq_ok_of_mapM_eq_map {read : α → Except Failure β} {value : α → β} {items : List α}
    (hread : items.mapM read = .ok (items.map value)) {item : α} (hitem : item ∈ items) :
    read item = .ok (value item) := by
  induction items with
  | nil => cases hitem
  | cons first rest ih =>
      obtain ⟨result, results, hfirst, hrest, hsplit⟩ := mapM_cons_eq_ok hread
      obtain ⟨rfl, rfl⟩ := List.cons.inj hsplit
      cases List.mem_cons.mp hitem with
      | inl hsame => exact hsame ▸ hfirst
      | inr hother => exact ih hrest hother

theorem length_of_mapM {read : α → Except Failure β} {items : List α} {values : List β}
    (hread : items.mapM read = .ok values) : values.length = items.length := by
  induction items generalizing values with
  | nil =>
      cases hread
      rfl
  | cons item rest ih =>
      obtain ⟨value, others, -, hrest, rfl⟩ := mapM_cons_eq_ok hread
      rw [List.length_cons, List.length_cons, ih hrest]

/-- What is read of a list is read of its items from any place on. -/
theorem mapM_drop {read : α → Except Failure β} {items : List α} {values : List β}
    (hread : items.mapM read = .ok values) (count : Nat) :
    (items.drop count).mapM read = .ok (values.drop count) := by
  induction items generalizing values count with
  | nil =>
      cases hread
      simp
  | cons item rest ih =>
      cases count with
      | zero => simpa using hread
      | succ count =>
          obtain ⟨value, others, -, hrest, rfl⟩ := mapM_cons_eq_ok hread
          simpa using ih hrest count

/-- What is read of a list is read of its first items. -/
theorem mapM_take {read : α → Except Failure β} {items : List α} {values : List β}
    (hread : items.mapM read = .ok values) (count : Nat) :
    (items.take count).mapM read = .ok (values.take count) := by
  induction items generalizing values count with
  | nil =>
      cases hread
      simp
  | cons item rest ih =>
      cases count with
      | zero => simp
      | succ count =>
          obtain ⟨value, others, hitem, hrest, rfl⟩ := mapM_cons_eq_ok hread
          rw [List.take_succ_cons, List.take_succ_cons, List.mapM_cons, hitem, ok_bind,
            ih hrest count]
          rfl

theorem exists_mem_of_mapM {read : α → Except Failure β} {items : List α} {values : List β}
    (hread : items.mapM read = .ok values) {value : β} (hvalue : value ∈ values) :
    ∃ item ∈ items, read item = .ok value := by
  induction items generalizing values with
  | nil =>
      cases hread
      cases hvalue
  | cons item rest ih =>
      obtain ⟨first, others, hitem, hrest, rfl⟩ := mapM_cons_eq_ok hread
      cases List.mem_cons.mp hvalue with
      | inl hfirst => exact ⟨item, List.mem_cons_self, hfirst ▸ hitem⟩
      | inr hother =>
          obtain ⟨other, hmem, hother⟩ := ih hrest hother
          exact ⟨other, List.mem_cons_of_mem item hmem, hother⟩

/-- What an item is read as is among the values. -/
theorem exists_value_of_mapM {read : α → Except Failure β} {items : List α} {values : List β}
    (hread : items.mapM read = .ok values) {item : α} (hitem : item ∈ items) :
    ∃ value ∈ values, read item = .ok value := by
  induction items generalizing values with
  | nil => cases hitem
  | cons first rest ih =>
      obtain ⟨value, others, hfirst, hrest, rfl⟩ := mapM_cons_eq_ok hread
      cases List.mem_cons.mp hitem with
      | inl hsame => exact ⟨value, List.mem_cons_self, hsame ▸ hfirst⟩
      | inr hother =>
          obtain ⟨other, hmem, hvalue⟩ := ih hrest hother
          exact ⟨other, List.mem_cons_of_mem value hmem, hvalue⟩

theorem mapM_map_of_commute {read : α → Except Failure β} {change : α → α} {result : β → β}
    (hchange : ∀ item value, read item = .ok value → read (change item) = .ok (result value))
    {items : List α} {values : List β} (hread : items.mapM read = .ok values) :
    (items.map change).mapM read = .ok (values.map result) := by
  induction items generalizing values with
  | nil =>
      cases hread
      rfl
  | cons item rest ih =>
      obtain ⟨value, others, hitem, hrest, rfl⟩ := mapM_cons_eq_ok hread
      rw [List.map_cons, List.mapM_cons, hchange item value hitem, ok_bind, ih hrest]
      rfl

/-- Items are kept one by one. -/
theorem filterM_eq_ok_filter {keep : α → Except Failure Bool} {isKept : α → Bool} {items : List α}
    (hkeep : ∀ item ∈ items, keep item = .ok (isKept item)) :
    items.filterM keep = .ok (items.filter isKept) := by
  have hrest (kept : List α) :
      items.filterAuxM keep kept = .ok ((items.filter isKept).reverse ++ kept) := by
    induction items generalizing kept with
    | nil => rfl
    | cons item rest ih =>
        have hlater := ih fun other hother => hkeep other (List.mem_cons_of_mem item hother)
        rw [List.filterAuxM, hkeep item List.mem_cons_self, ok_bind, hlater]
        cases hitem : isKept item with
        | true => simp [hitem]
        | false => simp [hitem]
  rw [List.filterM, hrest, ok_bind, List.append_nil, List.reverse_reverse, pure_eq_ok]

/-- What is kept was there. -/
theorem mem_of_mem_filterM {keep : α → Except Failure Bool} {items kept : List α}
    (hfilter : items.filterM keep = .ok kept) {item : α} (hitem : item ∈ kept) : item ∈ items := by
  have hrest (found : List α) (result : List α)
      (hresult : items.filterAuxM keep found = .ok result) :
      ∀ other ∈ result, other ∈ items ∨ other ∈ found := by
    clear hfilter
    induction items generalizing found with
    | nil =>
        cases hresult
        exact fun other hother => .inr hother
    | cons first rest ih =>
        rw [List.filterAuxM] at hresult
        intro other hother
        cases hfirst : keep first with
        | error failure =>
            rw [hfirst] at hresult
            cases hresult
        | ok isKept =>
            rw [hfirst, ok_bind] at hresult
            cases ih _ hresult other hother with
            | inl hmem => exact .inl (List.mem_cons_of_mem first hmem)
            | inr hmem =>
                cases isKept with
                | false => exact .inr hmem
                | true =>
                    cases List.mem_cons.mp hmem with
                    | inl hsame => exact .inl (hsame ▸ List.mem_cons_self)
                    | inr hfound => exact .inr hfound
  cases hresult : items.filterAuxM keep [] with
  | error failure =>
      rw [List.filterM, hresult] at hfilter
      cases hfilter
  | ok result =>
      rw [List.filterM, hresult] at hfilter
      cases hfilter
      simpa using hrest [] result hresult item (List.mem_reverse.mp hitem)

/-! ### Successes and failures -/

theorem eq_ok_of_toOption {outcome : Except Failure α} {value : α}
    (hvalue : outcome.toOption = some value) : outcome = .ok value := by
  cases outcome with
  | error failure => cases hvalue
  | ok other =>
      cases hvalue
      rfl

/-- Two steps in a row fail if the first fails or the second fails on its value. -/
theorem bind_eq_error {outcome : Except Failure α} {next : α → Except Failure β}
    {failure : Failure} (hfailed : (outcome >>= next) = .error failure) :
    outcome = .error failure ∨ ∃ value, outcome = .ok value ∧ next value = .error failure := by
  cases outcome with
  | error other => exact .inl (congrArg _ (Except.error.inj hfailed))
  | ok value => exact .inr ⟨value, rfl, hfailed⟩

theorem bind_eq_ok {outcome : Except Failure α} {next : α → Except Failure β} {result : β}
    (hdone : (outcome >>= next) = .ok result) :
    ∃ value, outcome = .ok value ∧ next value = .ok result := by
  cases outcome with
  | error other => cases hdone
  | ok value => exact ⟨value, rfl, hdone⟩

/-- A list that is read is read at each of its items. -/
theorem exists_ok_of_mem {read : α → Except Failure β} {items : List α} {values : List β}
    (hread : items.mapM read = .ok values) {item : α} (hitem : item ∈ items) :
    ∃ value, read item = .ok value := by
  obtain ⟨value, -, hvalue⟩ := exists_value_of_mapM hread hitem
  exact ⟨value, hvalue⟩

/-- A list is read as what its items are read as, if each of them can be read. -/
theorem mapM_eq_ok_iff {read : α → Except Failure β} {value : α → β} {readable : α → Prop}
    {items : List α} {values : List β}
    (hread : ∀ item ∈ items, ∀ result,
      read item = .ok result ↔ readable item ∧ result = value item) :
    items.mapM read = .ok values ↔
      (∀ item ∈ items, readable item) ∧ values = items.map value := by
  have hmap : (∀ item ∈ items, readable item) → items.mapM read = .ok (items.map value) :=
    fun hreadable => mapM_eq_ok_map fun item hitem =>
      (hread item hitem _).mpr ⟨hreadable item hitem, rfl⟩
  constructor
  · intro hvalues
    have hreadable : ∀ item ∈ items, readable item := by
      intro item hitem
      obtain ⟨result, hresult⟩ := exists_ok_of_mem hvalues hitem
      exact ((hread item hitem result).mp hresult).1
    exact ⟨hreadable, Except.ok.inj (hvalues.symm.trans (hmap hreadable))⟩
  · rintro ⟨hreadable, rfl⟩
    exact hmap hreadable

/-- A list is read item by item, where it is known what an item is read as. -/
theorem mapM_eq_ok_iff_forall₂ {read : α → Except Failure β} {isReadAs : α → β → Prop}
    (hread : ∀ item value, read item = .ok value ↔ isReadAs item value) {items : List α}
    {values : List β} : items.mapM read = .ok values ↔ List.Forall₂ isReadAs items values := by
  constructor
  · intro hvalues
    induction items generalizing values with
    | nil =>
        cases hvalues
        exact .nil
    | cons item rest ih =>
        obtain ⟨value, others, hitem, hrest, rfl⟩ := mapM_cons_eq_ok hvalues
        exact .cons ((hread item value).mp hitem) (ih hrest)
  · intro hvalues
    induction hvalues with
    | nil => rfl
    | cons hitem _ ih =>
        rw [List.mapM_cons, (hread _ _).mpr hitem, ok_bind, ih]
        rfl

theorem bind_eq_error_iff {outcome : Except Failure α} {next : α → Except Failure β}
    {failure : Failure} : (outcome >>= next) = .error failure ↔
      outcome = .error failure ∨ ∃ value, outcome = .ok value ∧ next value = .error failure := by
  refine ⟨bind_eq_error, ?_⟩
  rintro (hfailed | ⟨value, hvalue, hnext⟩)
  · rw [hfailed, error_bind]
  · rw [hvalue, ok_bind, hnext]

/-- A list fails to be read at the first item that cannot be read. -/
theorem mapM_eq_error_iff {read : α → Except Failure β} {items : List α} {failure : Failure} :
    items.mapM read = .error failure ↔ ∃ earlier item later values,
      items = earlier ++ item :: later ∧ earlier.mapM read = .ok values ∧
        read item = .error failure := by
  constructor
  · intro hfailed
    induction items with
    | nil => cases hfailed
    | cons first rest ih =>
        rw [List.mapM_cons] at hfailed
        rcases bind_eq_error hfailed with hfirst | ⟨value, hvalue, hrest⟩
        · exact ⟨[], first, rest, [], rfl, rfl, hfirst⟩
        · rcases bind_eq_error hrest with hrest | ⟨others, -, hdone⟩
          · obtain ⟨earlier, item, later, values, rfl, hearlier, hitem⟩ := ih hrest
            refine ⟨first :: earlier, item, later, value :: values, rfl, ?_, hitem⟩
            rw [List.mapM_cons, hvalue, ok_bind, hearlier]
            rfl
          · cases hdone
  · rintro ⟨earlier, item, later, values, rfl, hearlier, hitem⟩
    rw [List.mapM_append, hearlier, ok_bind, List.mapM_cons, hitem, error_bind, error_bind]

theorem exists_mem_of_mapM_eq_error {read : α → Except Failure β} {items : List α}
    {failure : Failure} (hfailed : items.mapM read = .error failure) :
    ∃ item ∈ items, read item = .error failure := by
  obtain ⟨earlier, item, later, -, rfl, -, hitem⟩ := mapM_eq_error_iff.mp hfailed
  exact ⟨item, List.mem_append_right earlier List.mem_cons_self, hitem⟩

/-! ### Cancellations -/

/-- An outcome that is not a cancellation. -/
def Uncancelled (outcome : Except Failure α) : Prop :=
  ∀ failure, outcome = .error failure → failure.isCancelled = false

theorem uncancelled_ok (value : α) : Uncancelled (.ok value) := fun _ herror => nomatch herror

theorem uncancelled_error {failure : Failure} (hother : failure.isCancelled = false) :
    Uncancelled (.error failure : Except Failure α) := by
  intro other herror
  cases herror
  exact hother

theorem Uncancelled.bind {outcome : Except Failure α} {next : α → Except Failure β}
    (houtcome : Uncancelled outcome) (hnext : ∀ value, Uncancelled (next value)) :
    Uncancelled (outcome >>= next) := by
  cases outcome with
  | error failure => exact uncancelled_error (houtcome failure rfl)
  | ok value => exact hnext value

/-! ### Failures as no data -/

/-- What an outcome counts as where failures count as no data.  A cancellation stays what it is. -/
def degraded (fallback : α) : Except Failure α → Except Failure α
  | .ok value => .ok value
  | .error failure => if failure.isCancelled then .error failure else .ok fallback

theorem degraded_of_cancelled {fallback : α} {failure : Failure}
    (hcancelled : failure.isCancelled = true) :
    degraded fallback (.error failure) = .error failure := if_pos hcancelled

theorem degraded_of_uncancelled {fallback : α} {outcome : Except Failure α}
    (huncancelled : Uncancelled outcome) :
    degraded fallback outcome = .ok (outcome.toOption.getD fallback) := by
  cases outcome with
  | ok value => rfl
  | error failure => exact if_neg (Bool.eq_false_iff.mp (huncancelled failure rfl))

theorem eq_of_degraded_eq_ok {fallback value : α} {outcome : Except Failure α}
    (hvalue : degraded fallback outcome = .ok value) : value = outcome.toOption.getD fallback := by
  cases outcome with
  | ok result => exact (Except.ok.inj hvalue).symm
  | error failure =>
      cases hcancelled : failure.isCancelled with
      | true =>
          rw [degraded_of_cancelled hcancelled] at hvalue
          cases hvalue
      | false =>
          rw [degraded_of_uncancelled (uncancelled_error hcancelled)] at hvalue
          exact (Except.ok.inj hvalue).symm

/-- Only a cancellation is left as a failure. -/
theorem isCancelled_of_degraded_eq_error {fallback : α} {outcome : Except Failure α}
    {failure : Failure} (hfailed : degraded fallback outcome = .error failure) :
    failure.isCancelled = true := by
  cases outcome with
  | ok result => cases hfailed
  | error other =>
      cases hcancelled : other.isCancelled with
      | true =>
          rw [degraded_of_cancelled hcancelled] at hfailed
          exact Except.error.inj hfailed ▸ hcancelled
      | false =>
          rw [degraded_of_uncancelled (uncancelled_error hcancelled)] at hfailed
          cases hfailed

/-! ### Lists -/

/-- The items that are listed; a failure lists none. -/
def listed : Except Failure (List α) → List α
  | .ok items => items
  | .error _ => []

theorem listed_eq (outcome : Except Failure (List α)) :
    listed outcome = outcome.toOption.getD [] := by
  cases outcome <;> rfl

end AirQuality.Outcome
