import AirQuality.Proofs.Stage
import AirQuality.Proofs.Store.Record

/-!
# Deleting old rows

A cutoff that can be brought to UTC divides the rows by their instants: those before it are deleted
and counted, the others stay.  Any other cutoff is refused, and then nothing is deleted.
-/

namespace AirQuality.Store

open Decimal (Number)
open Time (Moment)

/-- Whether a row is not before an instant. -/
def isSince {ρ : Type} [Record ρ] (instant : Int) (row : ρ) : Bool :=
  instant ≤ (Record.age row).instant

/-- The rows of a kind from an instant on. -/
def since (ρ : Type) [Shelf ρ] (instant : Int) (store : Store) : Store :=
  Shelf.setRows ((Shelf.rows store : List ρ).filter (isSince instant)) store

theorem isStale_naiveUtc {ρ : Type} [Record ρ] (cutoff : Moment) (row : ρ) :
    Rows.isStale cutoff.naiveUtc row = !isSince cutoff.instant row := by
  have hutc : cutoff.naiveUtc.instant = cutoff.instant := Int.sub_zero _
  rw [Rows.isStale, isSince, hutc, Bool.eq_iff_iff]
  simp

section

variable (ρ : Type) [Shelf ρ] {cutoff : Moment} (store : Store)

theorem deleteOlderThan_of_hasUtc (hutc : HasUtc cutoff) :
    deleteOlderThan ρ cutoff store =
      (.ok ((Shelf.rows store : List ρ).countP fun row => !isSince cutoff.instant row),
        since ρ cutoff.instant store) := by
  have hstale : Rows.isStale cutoff.naiveUtc = fun row : ρ => !isSince cutoff.instant row :=
    funext fun row => isStale_naiveUtc cutoff row
  simp only [deleteOlderThan, onNaiveUtc_of_hasUtc hutc, Rows.split, hstale,
    List.partition_eq_filter_filter, List.countP_eq_length_filter, since, Function.comp_def,
    Bool.not_not]

theorem deleteOlderThan_of_not_hasUtc (hutc : ¬HasUtc cutoff) :
    deleteOlderThan ρ cutoff store = (.error (.number .dateOutOfRange), store) := by
  simp only [deleteOlderThan, onNaiveUtc_of_not_hasUtc hutc]

end

/-! ### Purging -/

variable {σ : Type} [Watched (StateM σ)]

/-- What purging comes to: the cutoff is reckoned, and what is older is deleted. -/
def purged (now : Moment) (retention : Number) (store : Store) : Except Failure Nat × Store :=
  match now.daysBefore retention with
  | .error failure => (.error failure, store)
  | .ok cutoff => deleteOlderThan MeasurementRecord cutoff store

theorem purge_apply (now : Moment) (retention : Number) (store : Store) (state : σ) :
    ((purge now retention store : StateM σ _) state).1 = purged now retention store := by
  unfold purge purged
  cases now.daysBefore retention with
  | error failure => rfl
  | ok cutoff =>
      dsimp only
      generalize deleteOlderThan MeasurementRecord cutoff store = deleted
      obtain ⟨outcome, after⟩ := deleted
      cases outcome with
      | ok count => rfl
      | error failure => rfl

end AirQuality.Store
