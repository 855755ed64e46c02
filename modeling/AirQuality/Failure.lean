import AirQuality.Json.Decode
import AirQuality.Json.Display
import AirQuality.Text.Utf8

/-!
# What can go wrong

Every failure is a cause; its wording is in one place.  A client error is a failure the caller
can mend: a bad coordinate, an unknown region, a bad argument, setting or file.  A cancelled
request is a failure too, but one that no fallback may hide.
-/

namespace AirQuality

/-- A bad argument, setting or file. -/
inductive ArgumentFault where
  | notAnInteger (setting raw : String)
  | notANumber (setting raw : String)
  | unreadableRegions (path cause : String)
  | unreadableStations (path cause : String)
  | regionsNotAList (path : String)
  | stationsNotAList (path : String)
  | invalidRegion (entry : Json) (cause : String)
  | invalidStation (entry : Json) (cause : String)
  | invertedRegion (name : String)
  | unknownSources (names available : List String)
  | unknownVariables (names : List String)
  | tooFewAttempts
  | tooFewWorkers
  | noDatabase
  | twoDatabases
  | tooManyDigits (count : Nat)
  | unreadableNumber (raw : String)

/-- A value of the wrong shape. -/
inductive ShapeFault where
  | missingField (name : String)
  | notIndexed (kind : Json.Kind)
  | noMember (kind : Json.Kind) (member : String)
  | notIterable (kind : Json.Kind)
  | notJoinable (kind : Json.Kind)
  | notSearchable (kind : Json.Kind)
  | notNumeric (kind : Json.Kind)
  | notComparable

/-- A number that has no counterpart of another kind. -/
inductive NumberFault where
  | integerTooLarge
  | integerBeyondStore
  | notANumberToInteger
  | infinityToInteger
  | tooManyDays (days : Int)
  | daysOutOfRange
  | dateOutOfRange

/-- A table operation that its columns do not support. -/
inductive TableFault where
  | missingColumn
  | ambiguousColumn
  | unevenRows
  | unsupported
  /-- Instants compared with a limit of which only one says how far it is from UTC. -/
  | incomparableInstants (fine naive : Bool)
  | meanOfTexts
  | meanOfMixture
  | yearOutOfRange (year : Int)
  | numberTooLarge
  | mixedTimestampForms
  | rejectedRow
  | unstorableValue
  | compoundValue

inductive Failure where
  | general (message : String)
  | invalidCoordinate (latitude longitude : Json)
  | unknownRegion (identifier : String) (available : List String)
  | unavailable (source url reason : String)
  | cancelled (message : String)
  | nothingAggregated (region : String)
  | argument (fault : ArgumentFault)
  | undecodable (fault : Text.Utf8.Fault)
  | shape (fault : ShapeFault)
  | number (fault : NumberFault)
  | table (fault : TableFault)
  /-- A listing with more pages than are read. -/
  | unfinished
  /-- A failure from outside the library, with the label it came under. -/
  | foreign (label message : String)

def ArgumentFault.message : ArgumentFault → String
  | .notAnInteger setting raw =>
    s!"{setting} must be an integer, got {(Json.text raw).quoted}"
  | .notANumber setting raw => s!"{setting} must be a number, got {(Json.text raw).quoted}"
  | .unreadableRegions path cause => s!"Could not read region table {path}: {cause}"
  | .unreadableStations path cause => s!"Could not read Open-Meteo stations {path}: {cause}"
  | .regionsNotAList path => s!"Region table {path} must contain a JSON list"
  | .stationsNotAList path => s!"Open-Meteo stations file {path} must contain a JSON list"
  | .invalidRegion entry cause => s!"Invalid region entry {entry.quoted}: {cause}"
  | .invalidStation entry cause => s!"Invalid Open-Meteo station {entry.quoted}: {cause}"
  | .invertedRegion name => s!"Region '{name}' has an inverted bounding box"
  | .unknownSources names available =>
    "Unknown source(s): " ++ ", ".intercalate names ++ ". Available sources: " ++
      ", ".intercalate available
  | .unknownVariables names => "Unknown Open-Meteo variable(s): " ++ ", ".intercalate names
  | .tooFewAttempts => "max_attempts must be at least 1"
  | .tooFewWorkers => "max_workers must be greater than 0"
  | .noDatabase => "One of database_file or database_url must be provided"
  | .twoDatabases => "Provide only one of database_file or database_url"
  | .tooManyDigits count => Json.DecodeFault.message [] (.tooManyDigits count)
  | .unreadableNumber raw => s!"could not convert string to float: {(Json.text raw).quoted}"

def ShapeFault.message : ShapeFault → String
  | .missingField name => (Json.text name).quoted
  | .notIndexed .text => "string indices must be integers, not 'str'"
  | .notIndexed .list => "list indices must be integers or slices, not str"
  | .notIndexed kind => s!"'{kind.name}' object is not subscriptable"
  | .noMember kind member => s!"'{kind.name}' object has no attribute '{member}'"
  | .notIterable kind => s!"'{kind.name}' object is not iterable"
  | .notJoinable .text => "can only concatenate str (not \"list\") to str"
  | .notJoinable kind => s!"unsupported operand type(s) for +: '{kind.name}' and 'list'"
  | .notSearchable kind => s!"argument of type '{kind.name}' is not iterable"
  | .notNumeric kind => s!"float() argument must be a string or a real number, not '{kind.name}'"
  | .notComparable => "values of different kinds cannot be compared"

def NumberFault.message : NumberFault → String
  | .integerTooLarge => "int too large to convert to float"
  | .integerBeyondStore => "Python int too large to convert to SQLite INTEGER"
  | .notANumberToInteger => "cannot convert float NaN to integer"
  | .infinityToInteger => "cannot convert float infinity to integer"
  | .tooManyDays days => s!"days={days}; must have magnitude <= 999999999"
  | .daysOutOfRange => "Python int too large to convert to C int"
  | .dateOutOfRange => "date value out of range"

def TableFault.message : TableFault → String
  | .missingColumn => "no such column"
  | .ambiguousColumn => "more than one column of that name"
  | .unevenRows => "rows do not match the columns"
  | .unsupported => "operation not supported by this kind of column"
  | .incomparableInstants fine naive =>
    let unit := if fine || naive then "ns" else "us"
    let zone := if naive then "" else ", UTC"
    s!"Invalid comparison between dtype=datetime64[{unit}{zone}] and Timestamp"
  | .meanOfTexts => "dtype 'str' does not support operation 'mean'"
  | .meanOfMixture => "agg function failed [how->mean,dtype->object]"
  | .yearOutOfRange year => s!"year {year} is out of range"
  | .numberTooLarge => "int too large to convert to float"
  | .mixedTimestampForms => "timestamps of different forms"
  | .rejectedRow => "row rejected"
  | .unstorableValue => "value cannot be stored"
  | .compoundValue => "value is not a single one"

namespace Failure

/-- A document with lists and objects nested deeper than the interpreter lets its reader go. -/
def tooDeep (kind : Json.Kind) : Failure :=
  .foreign "RecursionError" (Json.DecodeFault.message [] (.tooDeep kind))

def message : Failure → String
  | .general message => message
  | .invalidCoordinate latitude longitude =>
    s!"Invalid coordinate ({latitude.display}, {longitude.display}): latitude must be within " ++
      "[-90, 90] and longitude within [-180, 180]"
  | .unknownRegion identifier available =>
    s!"Region '{identifier}' not found." ++
      if available.isEmpty then "" else " Available regions: " ++ ", ".intercalate available
  | .unavailable source url reason => s!"{source} request to {url} failed: {reason}"
  | .cancelled message => message
  | .nothingAggregated region =>
    s!"No data could be aggregated for region '{region}': every source failed or returned nothing"
  | .argument fault => fault.message
  | .undecodable fault => fault.message
  | .shape fault => fault.message
  | .number fault => fault.message
  | .table fault => fault.message
  | .unfinished => "more pages than are read"
  | .foreign _ message => message

/-- Failures that a caller can mend. -/
def isClientError : Failure → Bool
  | .invalidCoordinate .. | .unknownRegion .. | .argument _ | .undecodable _ => true
  | .number .notANumberToInteger => true
  | .table .ambiguousColumn | .table .unevenRows | .table (.yearOutOfRange _)
  | .table .mixedTimestampForms => true
  | _ => false

/-- Failures that belong to the library itself. -/
def isOwn : Failure → Bool
  | .general _ | .invalidCoordinate .. | .unknownRegion .. | .unavailable .. | .cancelled _
  | .nothingAggregated _ => true
  | _ => false

def isCancelled : Failure → Bool
  | .cancelled _ => true
  | _ => false

end Failure

end AirQuality
