import AirQuality.Decimal.Layout
import AirQuality.Json.Value
import AirQuality.Text.Quoted

/-!
# Writing JSON

The JSON text of a value on one line.  Numbers have the fewest digits that read back, and
characters beyond ASCII stand for themselves.
-/

namespace AirQuality.Json

/-- A character as it stands between quotes. -/
def escaped (c : Char) : List Char :=
  if c = '"' ∨ c = '\\' then ['\\', c]
  else if c.toNat < 0x20 then '\\' :: 'u' :: Text.hexText 4 c.toNat
  else [c]

def encodeText (text : String) : List Char :=
  '"' :: text.toList.flatMap escaped ++ ['"']

mutual

def encodeChars : Json → List Char
  | .null => "null".toList
  | .bool true => "true".toList
  | .bool false => "false".toList
  | .int value => Decimal.intText value
  | .float value => Decimal.floatText value
  | .text value => encodeText value
  | .list items => '[' :: encodeItems items ++ [']']
  | .object fields => '{' :: encodeFields fields ++ ['}']

def encodeItems : List Json → List Char
  | [] => []
  | [item] => encodeChars item
  | item :: rest => encodeChars item ++ ',' :: ' ' :: encodeItems rest

def encodeFields : List (String × Json) → List Char
  | [] => []
  | [(name, value)] => encodeText name ++ ':' :: ' ' :: encodeChars value
  | (name, value) :: rest =>
    encodeText name ++ ':' :: ' ' :: encodeChars value ++ ',' :: ' ' :: encodeFields rest

end

/-- The JSON text of a value. -/
def encode (value : Json) : String := String.ofList value.encodeChars

end AirQuality.Json
