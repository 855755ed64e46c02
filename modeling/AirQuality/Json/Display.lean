import AirQuality.Decimal.Layout
import AirQuality.Json.Value
import AirQuality.Text.Quoted

/-!
# JSON values in messages

Inside a list or an object a text is quoted; on its own it stands as it is.
-/

namespace AirQuality.Json

mutual

/-- A value as it stands inside another one. -/
def inner : Json → List Char
  | .null => "None".toList
  | .bool true => "True".toList
  | .bool false => "False".toList
  | .int value => Decimal.intText value
  | .float value => Decimal.floatText value
  | .text value => Text.quoted value.toList
  | .list items => '[' :: innerItems items ++ [']']
  | .object fields => '{' :: innerFields fields ++ ['}']

def innerItems : List Json → List Char
  | [] => []
  | [item] => inner item
  | item :: rest => inner item ++ ',' :: ' ' :: innerItems rest

def innerFields : List (String × Json) → List Char
  | [] => []
  | [(name, value)] => Text.quoted name.toList ++ ':' :: ' ' :: inner value
  | (name, value) :: rest =>
    Text.quoted name.toList ++ ':' :: ' ' :: inner value ++ ',' :: ' ' :: innerFields rest

end

/-- A value with its texts quoted. -/
def quoted (value : Json) : String := String.ofList value.inner

/-- A value on its own: a text is not quoted. -/
def display : Json → String
  | .text value => value
  | value => value.quoted

end AirQuality.Json
