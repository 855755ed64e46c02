import AirQuality.Json.Access

/-!
# Equality and order of values

Numbers, flags among them, are the same or in order by their size, and texts by their
characters.  Lists are compared by the first items that differ.  Objects are the same if their
fields are, in any order, but none comes before another; nor do values of different kinds.
-/

namespace AirQuality.Json

/-- Whether two values are numbers of one size. -/
def sameNumber (first second : Json) : Bool :=
  match first.asNumber?, second.asNumber? with
  | some a, some b => a.compare? b == some .eq
  | _, _ => false

mutual

/-- Whether two values are the same. -/
def same : Json → Json → Bool
  | .null, .null => true
  | .text a, .text b => a == b
  | .list a, .list b => sameItems a b
  | .object a, .object b => a.length == b.length && haveSameFields a b
  | a, b => sameNumber a b

def sameItems : List Json → List Json → Bool
  | [], [] => true
  | a :: rest, b :: others => same a b && sameItems rest others
  | _, _ => false

/-- Whether each field of the first object has the same value in the second. -/
def haveSameFields : List (String × Json) → List (String × Json) → Bool
  | [], _ => true
  | (name, a) :: rest, fields =>
    ((fields.lookup name).any fun b => same a b) && haveSameFields rest fields

end

/-- How two numbers compare, if both are numbers at all; what is not a number is on a par with
any. -/
def orderOfNumbers? (first second : Json) : Option Ordering := do
  let a ← first.asNumber?
  let b ← second.asNumber?
  some ((a.compare? b).getD .eq)

mutual

/-- How two values compare, if there is an order between them. -/
def order? : Json → Json → Option Ordering
  | .text a, .text b => some (compare a b)
  | .list a, .list b => orderOfItems? a b
  | a, b => orderOfNumbers? a b

def orderOfItems? : List Json → List Json → Option Ordering
  | [], [] => some .eq
  | [], _ :: _ => some .lt
  | _ :: _, [] => some .gt
  | a :: rest, b :: others => if same a b then orderOfItems? rest others else order? a b

end

end AirQuality.Json
