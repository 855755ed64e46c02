/-!
# Values under names

A list of named values in which no name is set twice.  A value set again stays in the place
where its name first appeared.
-/

namespace AirQuality.Named

variable {α : Type}

/-- A value set under a name: in its old place if the name is taken, else at the end. -/
def set (name : String) (value : α) : List (String × α) → List (String × α)
  | [] => [(name, value)]
  | (other, old) :: rest =>
    if other = name then (name, value) :: rest else (other, old) :: set name value rest

theorem lookup_set (name other : String) (value : α) (values : List (String × α)) :
    (set name value values).lookup other =
      if other = name then some value else values.lookup other := by
  induction values with
  | nil =>
    cases same : other == name
    · have apart : other ≠ name := by simpa using same
      simp [set, List.lookup_cons, same, apart]
    · have equal : other = name := by simpa using same
      simp [set, equal]
  | cons first rest ih =>
    obtain ⟨taken, old⟩ := first
    by_cases found : taken = name
    · subst found
      cases same : other == taken
      · have apart : other ≠ taken := by simpa using same
        simp [set, List.lookup_cons, same, apart]
      · have equal : other = taken := by simpa using same
        simp [set, equal]
    · cases same : other == taken
      · simp [set, found, List.lookup_cons, same, ih]
      · have apart : other ≠ name := by
          rw [beq_iff_eq] at same
          exact same ▸ found
        simp [set, found, List.lookup_cons, same, apart]

end AirQuality.Named
