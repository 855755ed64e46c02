import AirQuality.Failure
import AirQuality.Text.Blank
import AirQuality.Text.Case
import AirQuality.Text.Search

/-!
# Canonical keys

Every provider names pollutants in its own way.  Readings are grouped under a canonical key:
the first key one of whose marks occurs in the name, written in capitals and without the
blanks around it.  A name without a mark is its own key, and a name that says nothing has the
key `UNKNOWN`.
-/

namespace AirQuality.CanonicalKey

def unknown : String := "UNKNOWN"

/-- A key and the marks that lead to it. -/
structure Rule where
  key : String
  marks : List String
deriving DecidableEq

/-- The rules, of which the first that matches counts. -/
def rules : List Rule :=
  [⟨"PM10", ["PM10"]⟩, ⟨"PM2.5", ["PM2.5", "PM25"]⟩, ⟨"SO2", ["SO2"]⟩, ⟨"NO2", ["NO2"]⟩,
    ⟨"CO", ["CO"]⟩, ⟨"O3", ["O3", "OZONE"]⟩]

def Rule.applies (rule : Rule) (name : List Char) : Bool :=
  rule.marks.any fun mark => Text.occursIn mark.toList name

/-- A name in capitals without the blanks around it. -/
def plainForm (name : List Char) : List Char := Text.strip (Text.upper name)

/-- The key of a name in its plain form. -/
def ofPlainForm (name : List Char) : String :=
  if name.isEmpty then unknown
  else
    match rules.find? (·.applies name) with
    | some rule => rule.key
    | none => String.ofList name

/-- The key of a name, which may be missing. -/
def ofName (name : Option String) : String :=
  match name with
  | none => unknown
  | some text => ofPlainForm (plainForm text.toList)

/-- The key of a name as a provider wrote it, which has to be a text or missing. -/
def ofJson (name : Json) : Except Failure String :=
  match name with
  | .null => .ok (ofName none)
  | .text text => .ok (ofName (some text))
  | other => .error (.shape (.noMember other.kind "upper"))

end AirQuality.CanonicalKey
