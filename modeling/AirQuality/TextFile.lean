import AirQuality.Failure

/-!
# Files

A file is a path with the octets found there, if any.  The tables of regions and of points are
files that hold one JSON document in UTF-8.
-/

namespace AirQuality

structure TextFile where
  path : String
  /-- The octets of the file, or none if there is no file. -/
  octets : Option (List Nat)
deriving DecidableEq

namespace TextFile

def absentText (path : String) : String :=
  s!"[Errno 2] No such file or directory: {(Json.text path).quoted}"

/-- The JSON document in a file, read with room for so many open lists and objects.  What is not
there or not JSON fails as `unreadable` words it. -/
def readJson (unreadable : (path cause : String) → ArgumentFault) (file : TextFile) (room : Nat) :
    Except Failure Json :=
  match file.octets with
  | none => .error (.argument (unreadable file.path (absentText file.path)))
  | some octets =>
    match Text.Utf8.decode octets with
    | .error fault => .error (.undecodable fault)
    | .ok characters =>
      let document := Text.Utf8.joinLineEnds characters
      match Json.decode document room with
      | .ok value => .ok value
      | .error (.tooManyDigits count) => .error (.argument (.tooManyDigits count))
      | .error (.tooDeep kind) => .error (.tooDeep kind)
      | .error fault => .error (.argument (unreadable file.path (fault.message document)))

/-- Rewords a failure in one entry of a table.  A number out of reach keeps its own words. -/
def inEntry (reword : (cause : String) → ArgumentFault) {α : Type} (entry : Except Failure α) :
    Except Failure α :=
  match entry with
  | .ok value => .ok value
  | .error (.shape fault) => .error (.argument (reword fault.message))
  | .error (.argument fault) => .error (.argument (reword fault.message))
  | .error failure => .error failure

end TextFile

end AirQuality
