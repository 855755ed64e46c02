/-!
# Sets of code points

A set of code points is written as the list of its closed ranges.
-/

namespace AirQuality.Text

def inRanges (ranges : List (Nat × Nat)) (code : Nat) : Bool :=
  ranges.any fun (first, last) => first ≤ code && code ≤ last

end AirQuality.Text
