import AirQuality.Decimal.Numeral
import AirQuality.Json.Value
import AirQuality.Named

/-!
# Reading JSON

A recursive reader over the characters of a document.  A fault keeps how many characters were
left where it was found, from which its line, column and position follow.  Besides standard
JSON the names `NaN`, `Infinity` and `-Infinity` are numbers, and of equal field names the
last value counts.  Lists and objects are nested only as deep as there is room for open ones.
-/

namespace AirQuality.Json

inductive SyntaxFault where
  | expectingValue
  | expectingComma
  | expectingColon
  | expectingName
  | extraData
  | unterminatedText
  | controlCharacter
  | invalidEscape
  | invalidUnicodeEscape
  | byteOrderMark
deriving DecidableEq

def SyntaxFault.text : SyntaxFault → String
  | .expectingValue => "Expecting value"
  | .expectingComma => "Expecting ',' delimiter"
  | .expectingColon => "Expecting ':' delimiter"
  | .expectingName => "Expecting property name enclosed in double quotes"
  | .extraData => "Extra data"
  | .unterminatedText => "Unterminated string starting at"
  | .controlCharacter => "Invalid control character at"
  | .invalidEscape => "Invalid \\escape"
  | .invalidUnicodeEscape => "Invalid \\uXXXX escape"
  | .byteOrderMark => "Unexpected UTF-8 BOM (decode using utf-8-sig)"

/-- Why a document cannot be read: bad syntax with `left` characters to go, a whole number with
too many digits, or a list or an object within more of them than there is room for. -/
inductive DecodeFault where
  | malformed (fault : SyntaxFault) (left : Nat)
  | tooManyDigits (count : Nat)
  | tooDeep (kind : Kind)
deriving DecidableEq

/-- The lists and objects that may be open at once where nothing but the reader is running.  They
count towards the limit of 1000 on all the calls that are running, of which the reader makes a few
itself; whoever calls it from further in leaves it less room. -/
def maxRoom : Nat := 995

namespace Reader

/-- A fault at the start of what is left to read. -/
def faultAt {α : Type} (fault : SyntaxFault) (rest : List Char) :
    Except DecodeFault (α × List Char) :=
  .error (.malformed fault rest.length)

def isGap (c : Char) : Bool := c = ' ' || c = '\t' || c = '\n' || c = '\r'

def skipGap (text : List Char) : List Char := text.dropWhile isGap

/-! ### Texts -/

def hexValue? (c : Char) : Option Nat :=
  let code := c.toNat
  if 0x30 ≤ code ∧ code ≤ 0x39 then some (code - 0x30)
  else if 0x41 ≤ code ∧ code ≤ 0x46 then some (code - 0x37)
  else if 0x61 ≤ code ∧ code ≤ 0x66 then some (code - 0x57)
  else none

def hexQuad? (a b c d : Char) : Option Nat := do
  let a ← hexValue? a
  let b ← hexValue? b
  let c ← hexValue? c
  let d ← hexValue? d
  pure (((a * 16 + b) * 16 + c) * 16 + d)

def isHighSurrogate (unit : Nat) : Bool := 0xD800 ≤ unit && unit ≤ 0xDBFF

def isLowSurrogate (unit : Nat) : Bool := 0xDC00 ≤ unit && unit ≤ 0xDFFF

def joinSurrogates (high low : Nat) : Nat := 0x10000 + (high - 0xD800) * 0x400 + (low - 0xDC00)

/-- A code unit as a character.  A surrogate on its own is no character, so the replacement
character stands for it: a document with an escape for one is left out of what is said of the texts
that are read and stored. -/
def unitChar (unit : Nat) : Char :=
  if 0xD800 ≤ unit ∧ unit ≤ 0xDFFF then Char.ofNat 0xFFFD else Char.ofNat unit

def plainEscape? : Char → Option Char
  | '"' => some '"'
  | '\\' => some '\\'
  | '/' => some '/'
  | 'b' => some '\x08'
  | 'f' => some '\x0c'
  | 'n' => some '\n'
  | 'r' => some '\r'
  | 't' => some '\t'
  | _ => none

/-- The code unit after a backslash and `u`, and the rest.  At least one character has to
follow the four digits. -/
def unicodeEscape (rest : List Char) : Except DecodeFault (Nat × List Char) :=
  match rest with
  | a :: b :: c :: d :: next :: more =>
    match hexQuad? a b c d with
    | some unit => .ok (unit, next :: more)
    | none => .error (.malformed .invalidUnicodeEscape (rest.length + 1))
  | _ => .error (.malformed .invalidUnicodeEscape (rest.length + 1))

/-- The second half of a surrogate pair, if an escape follows. -/
def lowSurrogate (rest : List Char) : Except DecodeFault (Option Nat × List Char) :=
  match rest with
  | '\\' :: 'u' :: more =>
    if rest.length < 7 then .ok (none, rest)
    else do
      let (unit, left) ← unicodeEscape more
      pure (if isLowSurrogate unit then (some unit, left) else (none, rest))
  | _ => .ok (none, rest)

/-- One escape after its backslash: the character it stands for, and the rest. -/
def escapeSequence (opening : Nat) (rest : List Char) : Except DecodeFault (Char × List Char) :=
  match rest with
  | [] => .error (.malformed .unterminatedText opening)
  | 'u' :: more => do
    let (unit, left) ← unicodeEscape more
    if isHighSurrogate unit then
      let (low, left) ← lowSurrogate left
      pure (match low with
        | some low => (Char.ofNat (joinSurrogates unit low), left)
        | none => (unitChar unit, left))
    else pure (unitChar unit, left)
  | c :: more =>
    match plainEscape? c with
    | some plain => .ok (plain, more)
    | none => .error (.malformed .invalidEscape (rest.length + 1))

/-- The characters of a text up to its closing quote.  `opening` is what was left at its
opening quote; `fuel` bounds the characters. -/
def textBody (opening : Nat) : Nat → List Char → List Char → Except DecodeFault (String × List Char)
  | 0, _, _ => .error (.malformed .unterminatedText opening)
  | fuel + 1, done, rest =>
    match rest with
    | [] => .error (.malformed .unterminatedText opening)
    | '"' :: more => .ok (String.ofList done.reverse, more)
    | '\\' :: more => do
      let (c, left) ← escapeSequence opening more
      textBody opening fuel (c :: done) left
    | c :: more =>
      if c.toNat ≤ 0x1F then faultAt .controlCharacter rest
      else textBody opening fuel (c :: done) more

/-! ### Numbers -/

def isPlainDigit (c : Char) : Bool := '0' ≤ c && c ≤ '9'

/-- The digits after a point, and the rest; without a digit the point is not part of the
number. -/
def fractionPart (text : List Char) : List Char × List Char :=
  match text with
  | '.' :: rest =>
    if rest.head?.any isPlainDigit then (rest.takeWhile isPlainDigit, rest.dropWhile isPlainDigit)
    else ([], text)
  | _ => ([], text)

/-- The sign and digits of an exponent, and the rest; without a digit its mark is not part of
the number. -/
def exponentPart (text : List Char) : Option (Bool × List Char) × List Char :=
  match text with
  | mark :: rest =>
    if mark = 'e' ∨ mark = 'E' then
      let (negative, unsigned) := Decimal.readSign rest
      if unsigned.head?.any isPlainDigit then
        (some (negative, unsigned.takeWhile isPlainDigit), unsigned.dropWhile isPlainDigit)
      else (none, text)
    else (none, text)
  | [] => (none, [])

def plainDigitsValue (digits : List Char) : Nat :=
  Decimal.digitsValue (digits.filterMap Text.asciiDigitValue?)

/-- A number with its sign already read; `start` is what was left where the number begins. -/
def unsignedNumber (start : List Char) (negative : Bool) (text : List Char) :
    Except DecodeFault (Json × List Char) :=
  let (whole, rest) := match text with
    | '0' :: rest => (['0'], rest)
    | _ => (text.takeWhile isPlainDigit, text.dropWhile isPlainDigit)
  if whole.isEmpty then faultAt .expectingValue start
  else
    let (fraction, rest) := fractionPart rest
    let (exponent, rest) := exponentPart rest
    if fraction.isEmpty && exponent.isNone then
      if Decimal.maxIntegerDigits < whole.length then .error (.tooManyDigits whole.length)
      else
        let magnitude : Int := plainDigitsValue whole
        .ok (.int (if negative then -magnitude else magnitude), rest)
    else
      let shift : Int := match exponent with
        | some (true, digits) => -(plainDigitsValue digits : Int)
        | some (false, digits) => plainDigitsValue digits
        | none => 0
      let decimal : Decimal.Scientific :=
        { significand := plainDigitsValue (whole ++ fraction), exponent := shift - fraction.length }
      .ok (.float (Decimal.ofScientific negative decimal), rest)

/-- What follows a word at the start of a text. -/
def afterWord? (word : String) (text : List Char) : Option (List Char) :=
  if word.toList.isPrefixOf text then some (text.drop word.length) else none

/-- The names that are values. -/
def words : List (String × Json) :=
  [("null", .null), ("true", .bool true), ("false", .bool false),
    ("NaN", .float Decimal.notANumber), ("Infinity", .float Decimal.positiveInfinity),
    ("-Infinity", .float Decimal.negativeInfinity)]

def scalar (text : List Char) : Except DecodeFault (Json × List Char) :=
  match words.findSome? fun (word, value) => (afterWord? word text).map fun rest => (value, rest)
  with
  | some found => .ok found
  | none =>
    match text with
    | '-' :: rest => unsignedNumber text true rest
    | _ => unsignedNumber text false text

/-! ### Values -/

mutual

/-- One value and what follows it; `fuel` bounds the nesting and the length, `room` the lists and
objects that may yet be opened. -/
def value : (fuel room : Nat) → List Char → Except DecodeFault (Json × List Char)
  | 0, _, source => faultAt .expectingValue source
  | fuel + 1, room, source =>
    match source with
    | '"' :: rest => do
      let (content, rest) ← textBody source.length (rest.length + 1) [] rest
      pure (.text content, rest)
    | '[' :: rest =>
      match room with
      | 0 => .error (.tooDeep .list)
      | room + 1 =>
        match skipGap rest with
        | ']' :: after => .ok (.list [], after)
        | inside => items fuel room [] inside
    | '{' :: rest =>
      match room with
      | 0 => .error (.tooDeep .object)
      | room + 1 =>
        match skipGap rest with
        | '}' :: after => .ok (.object [], after)
        | inside => fields fuel room [] inside
    | _ => scalar source

/-- The items of a list, the last ones first in `done`, and what follows its bracket. -/
def items : (fuel room : Nat) → List Json → List Char → Except DecodeFault (Json × List Char)
  | 0, _, _, source => faultAt .expectingValue source
  | fuel + 1, room, done, source => do
    let (item, rest) ← value fuel room source
    match skipGap rest with
    | ']' :: after => pure (.list (item :: done).reverse, after)
    | ',' :: after => items fuel room (item :: done) (skipGap after)
    | other => faultAt .expectingComma other

/-- The fields of an object and what follows its brace. -/
def fields : (fuel room : Nat) → List (String × Json) → List Char →
    Except DecodeFault (Json × List Char)
  | 0, _, _, source => faultAt .expectingValue source
  | fuel + 1, room, done, source =>
    match source with
    | '"' :: rest => do
      let (name, rest) ← textBody source.length (rest.length + 1) [] rest
      match skipGap rest with
      | ':' :: after => do
        let (item, rest) ← value fuel room (skipGap after)
        let done := Named.set name item done
        match skipGap rest with
        | '}' :: after => pure (.object done, after)
        | ',' :: after => fields fuel room done (skipGap after)
        | other => faultAt .expectingComma other
      | other => faultAt .expectingColon other
    | _ => faultAt .expectingName source

end

end Reader

/-- The value of a whole document, read with room for so many open lists and objects. -/
def decode (document : List Char) (room : Nat := maxRoom) : Except DecodeFault Json :=
  match document with
  | '\uFEFF' :: _ => .error (.malformed .byteOrderMark document.length)
  | _ => do
    let (result, rest) ← Reader.value (2 * document.length + 2) room (Reader.skipGap document)
    match Reader.skipGap rest with
    | [] => pure result
    | other => .error (.malformed .extraData other.length)

/-- What was wrong and where: line and column count from one, the position from zero. -/
def DecodeFault.message (document : List Char) : DecodeFault → String
  | .malformed fault left =>
    let before := document.take (document.length - left)
    let line := before.count '\n' + 1
    let column := (before.reverse.takeWhile (· ≠ '\n')).length + 1
    s!"{fault.text}: line {line} column {column} (char {before.length})"
  | .tooManyDigits count =>
    s!"Exceeds the limit ({Decimal.maxIntegerDigits} digits) for integer string conversion: " ++
      s!"value has {count} digits; use sys.set_int_max_str_digits() to increase the limit"
  | .tooDeep kind =>
    let opened := if kind = .list then "array" else "object"
    s!"maximum recursion depth exceeded while decoding a JSON {opened} from a unicode string"

end AirQuality.Json
