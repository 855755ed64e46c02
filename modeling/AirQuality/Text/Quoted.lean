import AirQuality.Text.Printable

/-!
# Quoted texts

A text in a message stands between single quotes, or between double quotes when it holds a
single quote and no double one.  The quote in use and the backslash are escaped, as is every
character that cannot be printed.
-/

namespace AirQuality.Text

def quoteFor (text : List Char) : Char :=
  if text.contains '\'' && !text.contains '"' then '"' else '\''

/-- `count` hexadecimal digits, lower case. -/
def hexText (count code : Nat) : List Char :=
  let digits := Nat.toDigits 16 code
  List.replicate (count - digits.length) '0' ++ digits

/-- The escape of a character that cannot be printed: two, four or eight digits. -/
def escapeCode (code : Nat) : List Char :=
  if code < 0x100 then '\\' :: 'x' :: hexText 2 code
  else if code < 0x10000 then '\\' :: 'u' :: hexText 4 code
  else '\\' :: 'U' :: hexText 8 code

def escape (quote c : Char) : List Char :=
  if c = quote ∨ c = '\\' then ['\\', c]
  else if c = '\t' then ['\\', 't']
  else if c = '\n' then ['\\', 'n']
  else if c = '\r' then ['\\', 'r']
  else if isPrintable c then [c]
  else escapeCode c.toNat

def quoted (text : List Char) : List Char :=
  let quote := quoteFor text
  quote :: text.flatMap (escape quote) ++ [quote]

end AirQuality.Text
