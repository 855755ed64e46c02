import AirQuality.Text.Case.Context
import AirQuality.Text.Case.LowerTable
import AirQuality.Text.Case.UpperTable

/-!
# Capital and small letters

Full case mapping of every script: a letter may become several (`ß` becomes `SS`), and a
capital sigma that ends a word becomes the final small sigma.
-/

namespace AirQuality.Text

def upper (text : List Char) : List Char :=
  text.flatMap (mapCase upperExpansions upperRuns)

/-- Whether a capital sigma between `before` (nearest first) and `after` ends a word: the
nearest character on the left that counts carries case and the nearest one on the right does
not. -/
def endsWord (before after : List Char) : Bool :=
  (before.dropWhile isCaseIgnorable).head?.any isCased &&
    !(after.dropWhile isCaseIgnorable).head?.any isCased

/-- Lowers `rest`, given what stands before it (nearest first). -/
def lowerAfter (before : List Char) : List Char → List Char
  | [] => []
  | c :: rest =>
    (if c = 'Σ' then [if endsWord before rest then 'ς' else 'σ']
      else mapCase lowerExpansions lowerRuns c) ++ lowerAfter (c :: before) rest

def lower (text : List Char) : List Char := lowerAfter [] text

end AirQuality.Text
