import AirQuality.Decimal.Layout
import AirQuality.Decimal.Numeral
import AirQuality.Time.Calendar

/-!
# Timestamps as providers write them

Readings carry their time as text in many forms of ISO 8601: with or without separators, with
short months and days, with a time to the hour, minute, second or a fraction of it, and with a
distance from UTC or none.  A text is read in parts, each of which hands on the rest; a form
that is not listed is not a timestamp.
-/

namespace AirQuality.Time

def nanosPerSecond : Int := 1000000000

/-- A timestamp as an instant, and whether its text had more than six digits of a fraction. -/
structure Stamp where
  nanos : Int
  isFine : Bool
deriving DecidableEq, Inhabited

namespace Stamp

def isDigit (c : Char) : Bool := (Text.asciiDigitValue? c).isSome

def value (digits : List Char) : Nat :=
  Decimal.digitsValue (digits.filterMap Text.asciiDigitValue?)

def startsWithDigit (text : List Char) : Bool := text.head?.any isDigit

/-- One digit or two; a single one only where `short` allows it. -/
def shortNumber? (short : Bool) (text : List Char) : Option (Nat × List Char) :=
  match text with
  | [] => none
  | first :: rest =>
    if !isDigit first then none
    else
      match rest with
      | second :: more =>
        if isDigit second then some (value [first, second], more)
        else if short then some (value [first], rest) else none
      | [] => if short then some (value [first], []) else none

/-- The number of digits at the start of a text, up to four. -/
def yearLength (text : List Char) : Nat := ((text.take 4).takeWhile isDigit).length

/-- The year of a text that starts with four digits, and the rest; any other text has year
zero. -/
def plainYear (text : List Char) : Int × List Char :=
  if yearLength text = 4 then (value (text.take 4), text.drop 4) else (0, text)

/-- The year and the rest.  At the very start of a text a minus negates the year, which may then
have fewer than four digits; after blanks a minus says nothing. -/
def yearPart (atStart : Bool) (text : List Char) : Int × List Char :=
  match text with
  | '-' :: rest =>
    if atStart then (-value (rest.take (yearLength rest)), rest.drop (yearLength rest))
    else plainYear rest
  | _ => plainYear text

def separators : List Char := ['-', '.', '/', '\\', ' ']

/-- The separator of a date, if there is one, and the rest, which starts with a digit. -/
def separator? (text : List Char) : Option (Option Char × List Char) :=
  match text with
  | [] => none
  | c :: rest =>
    if isDigit c then some (none, text)
    else if separators.contains c && startsWithDigit rest then some (some c, rest)
    else none

/-- What follows the separator of a date, or all of it where there is none. -/
def afterSeparator? (separator : Option Char) (text : List Char) : Option (List Char) :=
  match separator, text with
  | none, _ => some text
  | some c, first :: rest => if first = c then some rest else none
  | some _, [] => none

/-- A date and what follows it.  Without separators a date has a month and a day of two digits
each or neither of them. -/
def datePart? (atStart : Bool) (text : List Char) : Option (Date × List Char) :=
  if text.isEmpty || text = ['-'] then none
  else
    let (year, rest) := yearPart atStart text
    if rest.isEmpty then some (⟨year, 1, 1⟩, [])
    else do
      let (separator, rest) ← separator? rest
      let (month, rest) ← shortNumber? separator.isSome rest
      if month < 1 ∨ 12 < month then none
      else if rest.isEmpty then if separator.isSome then some (⟨year, month, 1⟩, []) else none
      else
        let rest ← afterSeparator? separator rest
        let (day, rest) ← shortNumber? separator.isSome rest
        let date : Date := ⟨year, month, day⟩
        if date.isReal then some (date, rest) else none

/-- A distance from UTC in seconds, or none where no digits follow the sign. -/
def offsetPart? (text : List Char) : Option (Int × List Char) := do
  let (hours, rest) ← shortNumber? true text
  if 24 ≤ hours then none
  else if rest.isEmpty then some (hours * 3600, [])
  else
    let rest := match rest with
      | ':' :: more => more
      | _ => rest
    let (minutes, rest) ← shortNumber? true rest
    if 60 ≤ minutes then none else some (hours * 3600 + minutes * 60, rest)

/-- The distance from UTC in seconds at the end of a text; blanks may surround it, and without
one the time is UTC. -/
def zonePart? (text : List Char) : Option Int :=
  let finish (offset : Int) (rest : List Char) : Option Int :=
    if (rest.dropWhile Text.isAsciiBlank).isEmpty then some offset else none
  match text.dropWhile Text.isAsciiBlank with
  | [] => some 0
  | 'Z' :: rest => finish 0 rest
  | '+' :: rest => (offsetPart? rest).bind fun (offset, rest) => finish offset rest
  | '-' :: rest => (offsetPart? rest).bind fun (offset, rest) => finish (-offset) rest
  | _ => none

/-- The most digits a fraction of a second may have. -/
def maxFractionDigits : Nat := 18

/-- The digits after a point, and the rest. -/
def fractionPart? (text : List Char) : Option (List Char × List Char) :=
  match text with
  | '.' :: rest =>
    let digits := rest.takeWhile isDigit
    if maxFractionDigits < digits.length then none else some (digits, rest.dropWhile isDigit)
  | _ => some ([], text)

/-- Nanoseconds from the digits of a fraction; what lies below is dropped. -/
def fractionNanos (digits : List Char) : Nat := value ((digits ++ List.replicate 9 '0').take 9)

/-- Seconds of the day, the digits of a fraction and what follows the time. -/
structure Clock where
  seconds : Nat
  fraction : List Char
  rest : List Char

/-- Minutes and seconds after the hour.  With colons they may have one digit, without them they
have two, and one kind excludes the other. -/
def minutesPart? (hour : Nat) (colons : Bool) (text : List Char) : Option Clock := do
  let (minute, rest) ← shortNumber? colons text
  if 60 ≤ minute then none
  else
    let untilMinute := hour * 3600 + minute * 60
    let secondsText : Option (Option (List Char)) := match colons, rest with
      | true, ':' :: more => if startsWithDigit more then some (some more) else none
      | false, c :: more => some (if isDigit c then some (c :: more) else none)
      | _, _ => some none
    match ← secondsText with
    | none => some ⟨untilMinute, [], rest⟩
    | some text =>
      let (second, rest) ← shortNumber? colons text
      if 60 ≤ second then none
      else
        let (fraction, rest) ← fractionPart? rest
        some ⟨untilMinute + second, fraction, rest⟩

/-- The time of day after a date.  The hour has two digits unless a colon follows. -/
def clockPart? (text : List Char) : Option Clock := do
  let (hour, rest) ← shortNumber? true text
  let twoDigits := text.length = rest.length + 2
  if 24 ≤ hour then none
  else
    match rest with
    | ':' :: more => if startsWithDigit more then minutesPart? hour true more else none
    | c :: _ =>
      if !twoDigits then none
      else if isDigit c then minutesPart? hour false rest
      else some ⟨hour * 3600, [], rest⟩
    | [] => if twoDigits then some ⟨hour * 3600, [], []⟩ else none

/-- Reads a timestamp in any of the accepted forms. -/
def ofChars? (text : List Char) : Option Stamp := do
  let trimmed := text.dropWhile Text.isAsciiBlank
  let (date, rest) ← datePart? (trimmed.length = text.length) trimmed
  let midnight := date.dayNumber * 86400
  match rest with
  | [] => some ⟨midnight * nanosPerSecond, false⟩
  | mark :: rest =>
    if mark ≠ 'T' ∧ mark ≠ ' ' then none
    else
      let clock ← clockPart? rest
      let offset ← zonePart? clock.rest
      let seconds := midnight + clock.seconds - offset
      some ⟨seconds * nanosPerSecond + fractionNanos clock.fraction, 6 < clock.fraction.length⟩

def ofText? (text : String) : Option Stamp := ofChars? text.toList

/-! ### Writing -/

/-- A number padded with zeros to a width, its sign included. -/
def paddedText (width : Nat) (n : Int) : List Char :=
  if n < 0 then '-' :: Decimal.padLeft (width - 1) (Decimal.natText n.natAbs)
  else Decimal.padLeft width (Decimal.natText n.natAbs)

/-- The digits after the seconds: none, six or nine of them, as many as are needed. -/
def fractionText (nanos : Int) : List Char :=
  if nanos = 0 then []
  else if nanos % 1000 = 0 then '.' :: paddedText 6 (nanos / 1000)
  else '.' :: paddedText 9 nanos

/-- The written form of an instant of any year on UTC. -/
def instantText (nanos : Int) : String :=
  let seconds := nanos / nanosPerSecond
  let date := Date.ofDayNumber (seconds / 86400)
  let timeOfDay := seconds % 86400
  String.ofList <| paddedText 4 date.year ++ '-' :: paddedText 2 date.month ++
    '-' :: paddedText 2 date.day ++ 'T' :: paddedText 2 (timeOfDay / 3600) ++
    ':' :: paddedText 2 (timeOfDay / 60 % 60) ++ ':' :: paddedText 2 (timeOfDay % 60) ++
    fractionText (nanos % nanosPerSecond) ++ "+00:00".toList

end Stamp

end AirQuality.Time
