import AirQuality.Decimal.Number
import AirQuality.Failure
import AirQuality.Text.Search

/-!
# Taking values apart

Files and replies hold whatever their authors put there, so every step into a value can fail,
and the failure says what was found instead.
-/

namespace AirQuality.Json

def asNumber? : Json → Option Decimal.Number
  | .bool value => some (.whole (if value then 1 else 0))
  | .int value => some (.whole value)
  | .float value => some (.real value)
  | _ => none

def ofNumber : Decimal.Number → Json
  | .whole value => .int value
  | .real value => .float value

/-- Whether a value counts as missing among others: null does, and what is not a number. -/
def isMissing : Json → Bool
  | .null => true
  | .float value => Decimal.isNaN value
  | _ => false

def asText? : Json → Option String
  | .text value => some value
  | _ => none

/-- The field of an object, which has to be there. -/
def field (name : String) (value : Json) : Except Failure Json :=
  match value with
  | .object fields =>
    match fields.lookup name with
    | some found => .ok found
    | none => .error (.shape (.missingField name))
  | other => .error (.shape (.notIndexed other.kind))

/-- The field of an object, or null if it is not there. -/
def fieldOrNull (name : String) (value : Json) : Except Failure Json :=
  match value with
  | .object fields => .ok ((fields.lookup name).getD .null)
  | other => .error (.shape (.noMember other.kind "get"))

/-- A value if it counts as something, else an alternative. -/
def orElse (value alternative : Json) : Json := if value.isPresent then value else alternative

/-- The items one by one: those of a list, the characters of a text, the names of an object. -/
def elements : Json → Except Failure (List Json)
  | .list items => .ok items
  | .text value => .ok (value.toList.map fun c => .text (String.singleton c))
  | .object fields => .ok (fields.map fun field => .text field.1)
  | other => .error (.shape (.notIterable other.kind))

/-- Items where there are some, and none for a value that does not count as something. -/
def elementsOrNone (value : Json) : Except Failure (List Json) :=
  if value.isPresent then value.elements else .ok []

/-- Whether a text is among the items of a list, the names of an object or the parts of a
text. -/
def hasPart (part : String) : Json → Except Failure Bool
  | .list items => .ok (items.any fun item => item.asText? = some part)
  | .object fields => .ok (fields.any fun field => field.1 = part)
  | .text value => .ok (Text.occursIn part.toList value.toList)
  | other => .error (.shape (.notSearchable other.kind))

/-- A number from a number or from a text that stands for one. -/
def toFloat (value : Json) : Except Failure Float :=
  match value with
  | .text raw =>
    match Decimal.permissiveStyle.readFloat? raw.toList with
    | some number => .ok number
    | none => .error (.argument (.unreadableNumber raw))
  | .float number => .ok number
  | .int whole =>
    match Decimal.ofInt? whole with
    | some number => .ok number
    | none => .error (.number .integerTooLarge)
  | .bool true => .ok 1
  | .bool false => .ok 0
  | other => .error (.shape (.notNumeric other.kind))

end AirQuality.Json
