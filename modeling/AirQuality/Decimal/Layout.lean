import AirQuality.Decimal.Rounded

/-!
# Writing numbers

A layout says where a decimal is written with its point in place and where with an exponent.
All numbers in messages and answers follow one layout; waits are written with two places,
retry delays with three significant digits, and numbers stored as texts with fifteen.
-/

namespace AirQuality.Decimal

structure Layout where
  /-- The least exponent of the leading digit that is written in place. -/
  placedFrom : Int
  /-- The first exponent of the leading digit that is no longer written in place. -/
  placedBelow : Int
  /-- Whether a whole number keeps a zero after the point. -/
  keepsPointZero : Bool
  /-- Whether one digit alone before an exponent gets a point and a zero. -/
  pointsLoneDigit : Bool
  exponentMark : Char
  exponentWidth : Nat
deriving DecidableEq

/-- Numbers are written in place from 0.0001 up to 10^16, and a whole number keeps `.0`. -/
def plainLayout : Layout := ⟨-4, 16, true, false, 'e', 2⟩

/-- Three significant digits are written in place from 0.0001 up to 1000. -/
def briefLayout : Layout := ⟨-4, 3, false, false, 'e', 2⟩

/-- Fifteen significant digits are written in place from 0.0001 up to 10^15, and there is
always a point. -/
def storedLayout : Layout := ⟨-4, 15, true, true, 'e', 2⟩

def natText (n : Nat) : List Char := Nat.toDigits 10 n

def intText (n : Int) : List Char :=
  if n < 0 then '-' :: natText n.natAbs else natText n.natAbs

def padLeft (width : Nat) (text : List Char) : List Char :=
  List.replicate (width - text.length) '0' ++ text

/-- Drops the zeros at the end of a text of digits. -/
def dropTrailingZeros (digits : List Char) : List Char :=
  (digits.reverse.dropWhile (· == '0')).reverse

/-- Digits with the point after the first `whole` of them, or before leading zeros. -/
def placePoint (keepsPointZero : Bool) (digits : List Char) (whole : Int) : List Char :=
  if whole ≤ 0 then '0' :: '.' :: (List.replicate (-whole).toNat '0' ++ digits)
  else
    let count := whole.toNat
    if digits.length ≤ count then
      digits ++ List.replicate (count - digits.length) '0' ++
        (if keepsPointZero then ['.', '0'] else [])
    else digits.take count ++ '.' :: digits.drop count

/-- One digit, the others after a point, and a signed exponent. -/
def Layout.withExponent (layout : Layout) (digits : List Char) (lead : Int) : List Char :=
  let mantissa := match digits with
    | first :: second :: more => first :: '.' :: second :: more
    | short => if layout.pointsLoneDigit then short ++ ['.', '0'] else short
  mantissa ++ layout.exponentMark :: (if lead < 0 then '-' else '+') ::
    padLeft layout.exponentWidth (natText lead.natAbs)

/-- A positive decimal in a layout. -/
def Layout.write (layout : Layout) (decimal : Scientific) : List Char :=
  let all := natText decimal.significand
  let lead := decimal.exponent + all.length - 1
  let digits := dropTrailingZeros all
  if layout.placedFrom ≤ lead ∧ lead < layout.placedBelow then
    placePoint layout.keepsPointZero digits (lead + 1)
  else layout.withExponent digits lead

def signed (negative : Bool) (text : List Char) : List Char :=
  if negative then '-' :: text else text

def infinityText (negative : Bool) : List Char := signed negative "inf".toList

def notANumberText : List Char := "nan".toList

/-- The shortest text that reads back as the number. -/
def floatText (x : Float) : List Char :=
  match parts x with
  | .notANumber => notANumberText
  | .infinite negative => infinityText negative
  | .finite negative mantissa exponent =>
    signed negative (if mantissa = 0 then "0.0".toList
      else plainLayout.write (shortest mantissa exponent))

/-- A number with a fixed number of decimal places. -/
def fixedText (places : Nat) (x : Float) : List Char :=
  match parts x with
  | .notANumber => notANumberText
  | .infinite negative => infinityText negative
  | .finite negative mantissa exponent =>
    let (num, den) := binaryFraction mantissa exponent
    let digits := padLeft (places + 1) (natText (roundDiv (num * tenTo places) den))
    let whole := digits.length - places
    signed negative (digits.take whole ++ '.' :: digits.drop whole)

/-- A number to three significant digits, without zeros at the end. -/
def briefText (x : Float) : List Char :=
  match parts x with
  | .notANumber => notANumberText
  | .infinite negative => infinityText negative
  | .finite negative mantissa exponent =>
    signed negative (if mantissa = 0 then ['0']
      else
        let (num, den) := binaryFraction mantissa exponent
        briefLayout.write (toDigits 3 num den))

/-- A number as it is stored as a text: to fifteen significant digits, a half rounded up.  What
is not a number has no text. -/
def storedText? (x : Float) : Option (List Char) :=
  match parts x with
  | .notANumber => none
  | .infinite negative => some (signed negative "Inf".toList)
  | .finite negative mantissa exponent =>
    some (if mantissa = 0 then "0.0".toList
      else
        let (num, den) := binaryFraction mantissa exponent
        signed negative (storedLayout.write (toDigitsBy roundDivUp 15 num den)))

end AirQuality.Decimal
