import AirQuality.Decimal.Numeral
import AirQuality.Json.Access
import AirQuality.Time.Stamp

/-!
# Columns of raw data

The cells of a column are read together: what they are as a whole decides how each of them
counts.  Whole numbers in the reach of 64 bits make a column of whole numbers; together with
fractions or missing cells they become binary64 numbers.  A column with texts keeps its cells
as they are, and so does any other mixture, such as one with larger whole numbers.
-/

namespace AirQuality.Column

inductive Kind where
  | whole
  | number
  | flag
  | text
  | mixed
  /-- Converted timestamps; `fine` if some text had more than six digits of a fraction. -/
  | instants (fine : Bool)
  /-- Converted flags, which are missing timestamps on no particular clock. -/
  | naiveInstants
deriving DecidableEq

/-- The kind of a column from which cells are taken out. -/
def Kind.withGaps : Kind → Kind
  | .whole => .number
  | .flag => .mixed
  | kind => kind

/-- What has been seen of a column that may still hold nothing but numbers or flags. -/
structure Survey where
  nulls : Bool := false
  notNumbers : Bool := false
  flags : Bool := false
  fractions : Bool := false
  wholes : Bool := false
  /-- Whether a whole number needs 64 bits without a sign. -/
  unsigned : Bool := false
  negative : Bool := false
deriving DecidableEq

def Survey.hasNumbers (survey : Survey) : Bool :=
  survey.wholes || survey.fractions || survey.notNumbers

def Survey.kind (survey : Survey) : Kind :=
  if survey.flags then
    if survey.hasNumbers || survey.nulls then .mixed else .flag
  else if !survey.hasNumbers then .mixed
  else if survey.fractions || survey.notNumbers || survey.nulls then .number
  else .whole

def int64Bound : Int := 0x8000000000000000

/-- Takes note of a whole number; none if no 64 bits hold it together with those before it. -/
def Survey.addWhole? (survey : Survey) (value : Int) : Option Survey :=
  let unsigned := survey.unsigned || decide (int64Bound ≤ value)
  let negative := survey.negative || decide (value < 0)
  if (unsigned && negative) || value < -int64Bound || 2 * int64Bound ≤ value then none
  else some { survey with wholes := true, unsigned := unsigned, negative := negative }

/-- The kind of a column that holds something besides numbers and flags. -/
def kindWithOthers (cells : List Json) : Kind :=
  let isTextual (cell : Json) : Bool :=
    match cell with
    | .text _ | .null => true
    | .float value => Decimal.isNaN value
    | _ => false
  if cells.all isTextual then .text else .mixed

/-- The kind of a column from the cells still to come; `all` are the cells from the start. -/
def surveyFrom (all : List Json) (survey : Survey) : List Json → Kind
  | [] => survey.kind
  | cell :: rest =>
    match cell with
    | .null => surveyFrom all { survey with nulls := true } rest
    | .bool _ => surveyFrom all { survey with flags := true } rest
    | .float value =>
      surveyFrom all (if Decimal.isNaN value then { survey with notNumbers := true }
        else { survey with fractions := true }) rest
    | .int value =>
      match survey.addWhole? value with
      | some survey => surveyFrom all survey rest
      | none => .mixed
    | _ => kindWithOthers all

def kindOf (cells : List Json) : Kind := surveyFrom cells {} cells

/-- The binary64 number of a number or a flag; anything else is not a number. -/
def realOf (cell : Json) : Float :=
  match cell with
  | .float value => value
  | .int value => Float.ofInt value
  | .bool value => if value then 1 else 0
  | _ => Decimal.notANumber

/-- The cells as they stand in a column of a kind: in a column of numbers all are numbers. -/
def settle (kind : Kind) (cells : List Json) : List Json :=
  match kind with
  | .number => cells.map fun cell => .float (realOf cell)
  | _ => cells

/-- A column as raw data make it: its kind, and its cells in the form the kind gives them. -/
def ofCells (cells : List Json) : Kind × List Json := (kindOf cells, settle (kindOf cells) cells)

/-! ### Values -/

/-- A text as a binary64 number.  A text of digits alone may not have more of them than an
integer may. -/
def numberOfText (text : List Char) : Float :=
  let style := Decimal.strictStyle
  if style.isWhole text && (style.readInt? text).isNone then Decimal.notANumber
  else (style.readFloat? text).getD Decimal.notANumber

/-- A cell as a binary64 number; not a number if it is none. -/
def numberOf (cell : Json) : Except Failure Float :=
  match cell with
  | .text raw => .ok (numberOfText raw.toList)
  | .int value =>
    match Decimal.ofInt? value with
    | some number => .ok number
    | none => .error (.table .numberTooLarge)
  | other => .ok (realOf other)

/-- The whole number that a cell stands for: a number, a flag, or a text of digits alone. -/
def wholeOf? (cell : Json) : Option Int :=
  match cell with
  | .int value => some value
  | .bool value => some (if value then 1 else 0)
  | .text raw => Decimal.strictStyle.readInt? raw.toList
  | _ => none

/-- Whether the cells all stand for whole numbers that 64 bits hold together. -/
def areWhole (cells : List Json) : Bool :=
  let addCell? (survey : Survey) (cell : Json) : Option Survey :=
    (wholeOf? cell).bind survey.addWhole?
  (cells.foldlM addCell? {}).isSome

/-- The cells as binary64 numbers.  Among whole numbers there is one zero. -/
def numbers (cells : List Json) : Except Failure (List Float) := do
  let numbers ← cells.mapM numberOf
  pure (if areWhole cells then numbers.map Decimal.oneZero else numbers)

/-! ### Timestamps -/

/-- The text a cell stands for as a timestamp.  Numbers stand for their digits, and in a column
of numbers for those of their integer part. -/
def stampText? (kind : Kind) (cell : Json) : Option (List Char) :=
  match kind, cell with
  | .flag, _ => none
  | .number, .float value =>
    match Decimal.truncate? value with
    | some whole =>
      if -int64Bound < whole ∧ whole < int64Bound then some (Decimal.intText whole) else none
    | none => none
  | _, .text raw => some raw.toList
  | _, .int value => if value = -int64Bound then none else some (Decimal.intText value)
  | _, .float value => some (Decimal.floatText value)
  | _, _ => none

/-- Nanoseconds between 1677 and 2262, which 64 bits hold. -/
def isNear (nanos : Int) : Bool := -int64Bound < nanos && nanos < int64Bound

/-- Stamps as instants.  If one of them is fine, those too far away are missing. -/
def instantsOfStamps (stamps : List (Option Time.Stamp)) : Bool × List (Option Int) :=
  let fine := stamps.any fun stamp => stamp.any (·.isFine)
  (fine, stamps.map fun stamp => (stamp.map (·.nanos)).filter fun nanos => !fine || isNear nanos)

/-- The cells as instants in nanoseconds, and the kind of column that they make up.  Flags become
missing instants on no particular clock. -/
def instants (kind : Kind) (cells : List Json) : Kind × List (Option Int) :=
  let (fine, instants) :=
    instantsOfStamps (cells.map fun cell => (stampText? kind cell).bind Time.Stamp.ofChars?)
  (if kind = .flag then .naiveInstants else .instants fine, instants)

end AirQuality.Column
