import AirQuality.Json.Access
import AirQuality.Time.Moment.Reader

/-!
# Reading loosely

Accessors that never fail, for values whose form is settled beforehand.  What is not there or is
of another kind counts as nothing: as null, as the empty text or list, or as zero.
-/

namespace AirQuality.Json

open Decimal (Number)
open Time (Moment)

def get (value : Json) (name : String) : Json :=
  match value with
  | .object fields => (fields.lookup name).getD .null
  | _ => .null

def IsObject (value : Json) : Prop := ∃ fields, value = .object fields

/-- On an object a loose look is the strict one. -/
theorem IsObject.fieldOrNull_eq {value : Json} (hobject : value.IsObject) (name : String) :
    value.fieldOrNull name = .ok (value.get name) := by
  obtain ⟨fields, rfl⟩ := hobject
  rfl

def has (value : Json) (name : String) : Bool :=
  match value with
  | .object fields => (fields.lookup name).isSome
  | _ => false

def asList : Json → List Json
  | .list items => items
  | _ => []

def asFields : Json → List (String × Json)
  | .object fields => fields
  | _ => []

def asText (value : Json) : String := value.display

def asInt : Json → Int
  | .int value => value
  | .bool value => if value then 1 else 0
  | .float value => (Decimal.truncate? value).getD 0
  | _ => 0

def asNumber (value : Json) : Number := value.asNumber?.getD (.whole 0)

def asFloat (value : Json) : Float := value.toFloat.toOption.getD 0

def asMoment (value : Json) : Moment := (Moment.ofIso? value.asText).getD default

/-- What a value stands for, unless it is null. -/
def given {α : Type} (read : Json → α) : Json → Option α
  | .null => none
  | value => some (read value)

/-! ### Fields -/

/-- What a field stands for, or a default if there is no such field. -/
def getOr {α : Type} (value : Json) (name : String) (read : Json → α) (default : α) : α :=
  if value.has name then read (value.get name) else default

def textAt (value : Json) (name : String) : String := (value.get name).asText

def listAt (value : Json) (name : String) : List Json := (value.get name).asList

def flagAt (value : Json) (name : String) : Bool := (value.get name).asInt ≠ 0

def textOr (value : Json) (name default : String) : String := value.getOr name asText default

def text? (value : Json) (name : String) : Option String := (value.get name).given asText

def int? (value : Json) (name : String) : Option Int := (value.get name).given asInt

def float? (value : Json) (name : String) : Option Float := (value.get name).given asFloat

def number? (value : Json) (name : String) : Option Number := (value.get name).given asNumber

def moment? (value : Json) (name : String) : Option Moment := (value.get name).given asMoment

end AirQuality.Json
