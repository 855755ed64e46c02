import AirQuality.Decimal.Rounded
import AirQuality.Text.Blank
import AirQuality.Text.Digit

/-!
# Reading numbers

A numeral is a sign, digits, and for a number with a fraction a point and an exponent.  Two
styles are read: the permissive one of settings and tables, with digits of any script and
single underscores between digits, and the strict one of readings, with plain digits only.
-/

namespace AirQuality.Decimal

structure NumeralStyle where
  digit? : Char → Option Nat
  isBlank : Char → Bool
  /-- Whether single underscores may stand between digits. -/
  grouped : Bool
  /-- Whether blanks may surround a name such as `inf`. -/
  padsNames : Bool

/-- The style of settings, region tables and coordinates. -/
def permissiveStyle : NumeralStyle := ⟨Text.digitValue?, Text.isNumberBlank, true, true⟩

/-- The style of readings. -/
def strictStyle : NumeralStyle := ⟨Text.asciiDigitValue?, Text.isAsciiBlank, false, false⟩

def NumeralStyle.isDigit (style : NumeralStyle) (c : Char) : Bool := (style.digit? c).isSome

/-- Drops each underscore that stands between two digits; any other one stays. -/
def NumeralStyle.dropGrouping (style : NumeralStyle) (afterDigit : Bool) : List Char → List Char
  | [] => []
  | c :: rest =>
    if c = '_' && afterDigit && rest.head?.any style.isDigit then style.dropGrouping false rest
    else c :: style.dropGrouping (style.isDigit c) rest

/-- A text without the blanks around it and without the grouping of its digits. -/
def NumeralStyle.normalise (style : NumeralStyle) (text : List Char) : List Char :=
  let trimmed := Text.trimBoth style.isBlank text
  if style.grouped then style.dropGrouping false trimmed else trimmed

/-- The digits at the start of a text, and the rest. -/
def NumeralStyle.digits (style : NumeralStyle) (text : List Char) : List Nat × List Char :=
  ((text.takeWhile style.isDigit).filterMap style.digit?, text.dropWhile style.isDigit)

def digitsValue (digits : List Nat) : Nat := digits.foldl (fun value digit => 10 * value + digit) 0

/-- The sign at the start of a text, and the rest. -/
def readSign : List Char → Bool × List Char
  | '-' :: rest => (true, rest)
  | '+' :: rest => (false, rest)
  | text => (false, text)

/-- The exponent after its mark, at the end of a numeral. -/
def NumeralStyle.exponent? (style : NumeralStyle) (text : List Char) : Option Int :=
  match text with
  | [] => some 0
  | mark :: rest =>
    if mark = 'e' ∨ mark = 'E' then
      let (negative, unsigned) := readSign rest
      match style.digits unsigned with
      | ([], _) => none
      | (digits, []) =>
        some (if negative then -(digitsValue digits : Int) else digitsValue digits)
      | _ => none
    else none

/-- A numeral without blanks or sign. -/
def NumeralStyle.scientific? (style : NumeralStyle) (text : List Char) : Option Scientific :=
  let (whole, afterWhole) := style.digits text
  let (fraction, afterFraction) := match afterWhole with
    | '.' :: rest => style.digits rest
    | rest => ([], rest)
  if whole.isEmpty && fraction.isEmpty then none
  else (style.exponent? afterFraction).map fun exponent =>
    { significand := digitsValue (whole ++ fraction), exponent := exponent - fraction.length }

/-- Not a number and the infinities, by name. -/
def namedFloat? (text : List Char) : Option Float :=
  let (negative, unsigned) := readSign text
  let name := unsigned.map Char.toLower
  if name = "inf".toList ∨ name = "infinity".toList then
    some (if negative then negativeInfinity else positiveInfinity)
  else if name = "nan".toList then some notANumber
  else none

/-- The number a text stands for, correctly rounded; beyond the range it is infinite. -/
def NumeralStyle.readFloat? (style : NumeralStyle) (text : List Char) : Option Float :=
  let normal := style.normalise text
  match namedFloat? (if style.padsNames then normal else text) with
  | some named => some named
  | none =>
    let (negative, unsigned) := readSign normal
    (style.scientific? unsigned).map (ofScientific negative)

/-- Whether a text is a sign and digits alone. -/
def NumeralStyle.isWhole (style : NumeralStyle) (text : List Char) : Bool :=
  let (digits, rest) := style.digits (readSign (style.normalise text)).2
  !digits.isEmpty && rest.isEmpty

/-- The most digits an integer may be written with. -/
def maxIntegerDigits : Nat := 4300

def NumeralStyle.readInt? (style : NumeralStyle) (text : List Char) : Option Int :=
  let (negative, unsigned) := readSign (style.normalise text)
  match style.digits unsigned with
  | ([], _) => none
  | (digits, []) =>
    if maxIntegerDigits < digits.length then none
    else some (if negative then -(digitsValue digits : Int) else digitsValue digits)
  | _ => none

end AirQuality.Decimal
