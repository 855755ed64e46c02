import AirQuality.Decimal.Numeral
import AirQuality.Text.Digit
import AirQuality.Time.Moment

/-!
# Reading moments

A moment is written as a date and a time of day with one character between them, whichever it
is.  A date has a month and a day or a week and a day of it, and like the time of day it is
written with separators or without.  The time may end after any of its parts, and its distance
from UTC may follow.
-/

namespace AirQuality.Time.Moment

/-- So many digits at the start of a text, and the rest. -/
def takeDigits? (count : Nat) (text : List Char) : Option (Nat × List Char) :=
  let values := (text.take count).filterMap Text.asciiDigitValue?
  if values.length = count then
    some (Decimal.digitsValue values, text.drop count)
  else none

/-- The digits at the start of a text. -/
def leadingDigits (text : List Char) : List Nat :=
  (text.takeWhile fun c => (Text.asciiDigitValue? c).isSome).filterMap Text.asciiDigitValue?

def afterChar? (c : Char) (text : List Char) : Option (List Char) :=
  match text with
  | first :: rest => if first = c then some rest else none
  | [] => none

/-! ### Dates -/

/-- How many characters belong to the date.  A hyphen after a week comes before a day if
one digit follows, and before an hour if two do.  Without separators one digit after a week, or
the first of an even number of them, is a day. -/
def dateLength (text : List Char) : Nat :=
  match text.drop 4 with
  | '-' :: 'W' :: rest =>
    match rest.drop 2 with
    | '-' :: _ :: c :: _ => if (Text.asciiDigitValue? c).isSome then 8 else 10
    | '-' :: _ => 10
    | _ => 8
  | 'W' :: rest =>
    let count := (leadingDigits (rest.drop 2)).length
    if count = 1 ∨ 0 < count ∧ count % 2 = 0 then 8 else 7
  | '-' :: _ => 10
  | _ => 8

/-- The day of a week, the first one unless the text goes on. -/
def readWeekday? (separated : Bool) (text : List Char) : Option Nat :=
  if text.isEmpty then some 1
  else do
    let text ← if separated then afterChar? '-' text else some text
    let (day, _) ← takeDigits? 1 text
    some day

/-- Reads a date that is the whole text. -/
def readDate? (text : List Char) : Option Date := do
  let (year, rest) ← takeDigits? 4 text
  let separated := (afterChar? '-' rest).isSome
  let rest := (afterChar? '-' rest).getD rest
  match afterChar? 'W' rest with
  | some rest =>
    let (week, rest) ← takeDigits? 2 rest
    Date.ofWeek? year week (← readWeekday? separated rest)
  | none =>
    let (month, rest) ← takeDigits? 2 rest
    let rest ← if separated then afterChar? '-' rest else some rest
    let (day, rest) ← takeDigits? 2 rest
    if rest.isEmpty then some ⟨year, month, day⟩ else none

/-! ### Times of day -/

/-- A time of day in microseconds, and whether its text ends with it. -/
structure Clock where
  micros : Int
  isWhole : Bool

/-- Adds the part before the others. -/
def Clock.after (micros : Int) (clock : Clock) : Clock :=
  { clock with micros := micros + clock.micros }

/-- The digits of a fraction as microseconds; what lies below is dropped.  The first six of the
characters have to be digits. -/
def readFraction? (text : List Char) : Option Clock := do
  let digits := leadingDigits text
  if digits.length < 6 ∧ digits.length < text.length then none
  else
    let padded := (digits ++ List.replicate 6 0).take 6
    some ⟨Decimal.digitsValue padded, digits.length = text.length⟩

/-- A part of a time of day: how many of it there are, and its length in microseconds. -/
structure ClockPart where
  limit : Nat
  micros : Int

/-- Hours, minutes and seconds of a time of day. -/
def clockParts : List ClockPart :=
  [⟨24, 3600 * microsPerSecond⟩, ⟨60, 60 * microsPerSecond⟩, ⟨60, microsPerSecond⟩]

/-- Hours, minutes and seconds of a distance, of which there may be up to 99 each. -/
def distanceParts : List ClockPart :=
  clockParts.map fun part => { part with limit := 100 }

/-- Reads parts of two digits each and then a fraction.  A colon after the first part means
that there is one after each, and one plain character alone after a part is left over. -/
def readParts? (colons : Option Bool) (parts : List ClockPart) (text : List Char) :
    Option Clock :=
  match parts with
  | [] => readFraction? text
  | part :: parts => do
    let (count, rest) ← takeDigits? 2 text
    let micros := count * part.micros
    if part.limit ≤ count then none
    else
      match rest with
      | [] => some ⟨micros, true⟩
      | [c] => if c.toNat < 0x80 then some ⟨micros, false⟩ else none
      | c :: more =>
        let colons := colons.getD (c = ':')
        if colons && c = ':' then (readParts? (some colons) parts more).map (Clock.after micros)
        else if c = '.' ∨ c = ',' then (readFraction? more).map (Clock.after micros)
        else if colons then none
        else (readParts? (some colons) parts rest).map (Clock.after micros)

/-- The distance from UTC that a text with its sign stands for, less than a day either way. -/
def readDistance? (text : List Char) : Option Int :=
  match text with
  | ['Z'] => some 0
  | sign :: rest =>
    if sign = 'Z' then none
    else do
      let clock ← readParts? none distanceParts rest
      if !clock.isWhole || microsPerDay ≤ clock.micros then none
      else if clock.micros < microsPerSecond then some 0
      else some (if sign = '-' then -clock.micros else clock.micros)
  | [] => none

def isDistanceSign (c : Char) : Bool := c = '+' || c = '-' || c = 'Z'

/-- Reads a time of day and the distance from UTC if one follows.  Before a distance one
character may be left over. -/
def readTime? (text : List Char) : Option (Int × Option Int) := do
  let clock ← readParts? none clockParts (text.takeWhile (!isDistanceSign ·))
  let distance := text.dropWhile (!isDistanceSign ·)
  if distance.isEmpty then if clock.isWhole then some (clock.micros, none) else none
  else some (clock.micros, some (← readDistance? distance))

/-- Reads a moment; a date alone is midnight. -/
def ofIso? (text : String) : Option Moment := do
  let chars := text.toList
  let date ← readDate? (chars.take (dateLength chars))
  if date.isReal ∧ 1 ≤ date.year ∧ date.year ≤ 9999 then
    let midnight := date.dayNumber * microsPerDay
    match chars.drop (dateLength chars) with
    | [] => some ⟨midnight, none⟩
    | _ :: rest =>
      let (timeOfDay, offset) ← readTime? rest
      some ⟨midnight + timeOfDay, offset⟩
  else none

end AirQuality.Time.Moment
