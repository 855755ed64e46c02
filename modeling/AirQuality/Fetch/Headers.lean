import AirQuality.Text.Case

/-!
# Headers

Headers are sent with every request.  Their names do not depend on capitals: a header set again
takes the place of the old one and its new spelling.
-/

namespace AirQuality

abbrev Headers := List (String × String)

namespace Headers

/-- The form in which names are compared. -/
def nameKey (name : String) : List Char := Text.lower name.toList

def set (headers : Headers) (name value : String) : Headers :=
  headers.filter (fun header => nameKey header.1 ≠ nameKey name) ++ [(name, value)]

def setAll (headers more : Headers) : Headers :=
  more.foldl (fun headers header => headers.set header.1 header.2) headers

/-- The headers a session sends: its own, what it accepts, and the ones it was given. -/
def forSession (own given : Headers) : Headers :=
  (own.set "Accept" "application/json").setAll given

end Headers

end AirQuality
