import Mathlib.Data.List.MinMax

/-!
# The first of the greatest and of the least

Of several items with the greatest value the first one counts, and so it does of those with the
least.  Of two lists in a row the one that counts is found from those that count in each of them,
and its value does not depend on the order of the items.
-/

namespace AirQuality.Extremes

open List

variable {α β : Type} [LinearOrder β] (f : α → β)

/-- The item with the greater value, of two with the same value the first. -/
def upper (first second : α) : α := if f first < f second then second else first

/-- The item with the smaller value, of two with the same value the first. -/
def lower (first second : α) : α := if f second < f first then second else first

theorem upper_assoc (first second third : α) :
    upper f (upper f first second) third = upper f first (upper f second third) := by
  unfold upper
  by_cases hfirst : f first < f second
  · by_cases hsecond : f second < f third
    · simp only [if_pos hfirst, if_pos hsecond, if_pos (hfirst.trans hsecond)]
    · simp only [if_pos hfirst, if_neg hsecond]
  · by_cases hsecond : f second < f third
    · simp only [if_neg hfirst, if_pos hsecond]
    · have hthird : ¬f first < f third :=
        not_lt.mpr ((not_lt.mp hsecond).trans (not_lt.mp hfirst))
      simp only [if_neg hfirst, if_neg hsecond, if_neg hthird]

instance : Std.Associative (upper f) := ⟨upper_assoc f⟩

theorem argmax_cons_eq_merge (item : α) (rest : List α) :
    argmax f (item :: rest) = Option.merge (upper f) (some item) (argmax f rest) := by
  rw [argmax_cons]
  cases argmax f rest with
  | none => rfl
  | some other => exact (apply_ite some _ _ _).symm

theorem argmax_append (items more : List α) :
    argmax f (items ++ more) = Option.merge (upper f) (argmax f items) (argmax f more) := by
  induction items with
  | nil => exact Option.merge_none_left.symm
  | cons item rest ih =>
      rw [cons_append, argmax_cons_eq_merge, ih, argmax_cons_eq_merge,
        (Option.associative_merge (upper f)).assoc]

theorem argmin_append (items more : List α) :
    argmin f (items ++ more) = Option.merge (lower f) (argmin f items) (argmin f more) :=
  argmax_append (fun item => OrderDual.toDual (f item)) items more

variable {f} {items others : List α} {item other : α}

/-- All items before the one that counts have smaller values, and none after it has a greater. -/
theorem exists_split_of_argmax (hitem : argmax f items = some item) :
    ∃ earlier later, items = earlier ++ item :: later ∧ (∀ other ∈ earlier, f other < f item) ∧
      ∀ other ∈ later, f other ≤ f item := by
  induction items with
  | nil => cases hitem
  | cons first rest ih =>
      rw [argmax_cons] at hitem
      cases hrest : argmax f rest with
      | none =>
          rw [hrest] at hitem
          obtain rfl := Option.some.inj hitem
          obtain rfl := argmax_eq_none.mp hrest
          exact ⟨[], [], rfl, nofun, nofun⟩
      | some greatest =>
          simp only [hrest] at hitem
          by_cases hlater : f first < f greatest
          · rw [if_pos hlater] at hitem
            obtain ⟨earlier, later, rfl, hearlier, hlast⟩ := ih (hrest.trans hitem)
            obtain rfl := Option.some.inj hitem
            exact ⟨first :: earlier, later, rfl, forall_mem_cons.mpr ⟨hlater, hearlier⟩, hlast⟩
          · rw [if_neg hlater] at hitem
            obtain rfl := Option.some.inj hitem
            refine ⟨[], rest, rfl, nofun, fun other hother => ?_⟩
            exact (le_of_mem_argmax hother hrest).trans (not_lt.mp hlater)

theorem argmax_eq_of_perm (hperm : items.Perm others) (hitem : argmax f items = some item)
    (hother : argmax f others = some other) : f item = f other := by
  apply le_antisymm
  · exact le_of_mem_argmax (hperm.mem_iff.mp (argmax_mem hitem)) hother
  · exact le_of_mem_argmax (hperm.mem_iff.mpr (argmax_mem hother)) hitem

theorem argmin_eq_of_perm (hperm : items.Perm others) (hitem : argmin f items = some item)
    (hother : argmin f others = some other) : f item = f other := by
  apply le_antisymm
  · exact le_of_mem_argmin (hperm.mem_iff.mpr (argmin_mem hother)) hitem
  · exact le_of_mem_argmin (hperm.mem_iff.mp (argmin_mem hitem)) hother

end AirQuality.Extremes
