import AirQuality.Json.Access
import AirQuality.Proofs.Plan.Ensures

/-!
# Payloads of the wrong shape

A payload may be anything, so to take one apart may fail.  It fails only because a value has not the
shape of what is looked for in it, which is never a cancellation.
-/

namespace AirQuality

open Outcome

variable {α β : Type}

/-- A failure for want of shape. -/
def Failure.IsOfShape (failure : Failure) : Prop := ∃ fault, failure = .shape fault

theorem Outcome.Meets.uncancelled {holds : α → Prop} {outcome : Except Failure α}
    (houtcome : Meets holds Failure.IsOfShape outcome) : Uncancelled outcome := by
  intro failure hfailed
  obtain ⟨fault, rfl⟩ := houtcome.of_error hfailed
  rfl

/-- A list fails to be read as one of its items does. -/
theorem Outcome.meets_mapM {escapes : Failure → Prop} {read : α → Except Failure β}
    (hread : ∀ item, Meets (fun _ => True) escapes (read item)) (items : List α) :
    Meets (fun _ => True) escapes (items.mapM read) := by
  cases hvalues : items.mapM read with
  | ok values => trivial
  | error failure =>
      obtain ⟨item, -, hfailed⟩ := exists_mem_of_mapM_eq_error hvalues
      exact (hread item).of_error hfailed

namespace Json

theorem meets_fieldOrNull (field : String) (value : Json) :
    Meets (fun _ => True) Failure.IsOfShape (value.fieldOrNull field) := by
  cases value with
  | object fields => trivial
  | _ => exact ⟨_, rfl⟩

theorem meets_hasPart (part : String) (value : Json) :
    Meets (fun _ => True) Failure.IsOfShape (value.hasPart part) := by
  cases value with
  | list items => trivial
  | object fields => trivial
  | text value => trivial
  | _ => exact ⟨_, rfl⟩

theorem meets_elements (value : Json) :
    Meets (fun _ => True) Failure.IsOfShape value.elements := by
  cases value with
  | list items => trivial
  | object fields => trivial
  | text value => trivial
  | _ => exact ⟨_, rfl⟩

theorem meets_elementsOrNone (value : Json) :
    Meets (fun _ => True) Failure.IsOfShape value.elementsOrNone := by
  unfold elementsOrNone
  split
  case isTrue => exact meets_elements value
  case isFalse => trivial

end Json

end AirQuality
