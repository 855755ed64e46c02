import AirQuality.Json.Order
import AirQuality.Table

/-!
# Order of cells

Raw cells are ordered like their values and instants by time.
-/

namespace AirQuality.Cell

/-- How two cells compare, if there is an order between them. -/
def order? : Cell → Cell → Option Ordering
  | .datum a, .datum b => a.order? b
  | .instant (some a), .instant (some b) => some (compare a b)
  | _, _ => none

/-- Whether cells can be put in order: missing ones and up to one other always can. -/
def areOrdered (cells : List Cell) : Bool :=
  let present := cells.filter fun cell => !cell.isMissing
  present.length ≤ 1 ||
    present.all fun first => present.all fun second => (order? first second).isSome

/-- Whether a cell comes first when the greatest come first; missing cells come last. -/
def precedes (first second : Cell) : Bool :=
  match first.isMissing, second.isMissing with
  | _, true => true
  | true, false => false
  | false, false => order? first second != some .lt

end AirQuality.Cell
