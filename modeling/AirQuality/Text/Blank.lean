/-!
# Blank characters

A character is blank when it separates words in any script: the ASCII spacing
controls, the four information separators, the next-line control and every
Unicode space, line or paragraph separator.  Zero-width characters and the byte
order mark are not blank.
-/

namespace AirQuality.Text

/-- The blank characters above the ASCII controls. -/
def wideBlanks : List Nat :=
  [0x85, 0xA0, 0x1680, 0x2000, 0x2001, 0x2002, 0x2003, 0x2004, 0x2005, 0x2006, 0x2007, 0x2008,
    0x2009, 0x200A, 0x2028, 0x2029, 0x202F, 0x205F, 0x3000]

/-- Tab, line feed, vertical tab, form feed, carriage return and space. -/
def isAsciiBlank (c : Char) : Bool :=
  (0x09 ≤ c.toNat && c.toNat ≤ 0x0D) || c.toNat == 0x20

def isBlank (c : Char) : Bool :=
  isAsciiBlank c || (0x1C ≤ c.toNat && c.toNat ≤ 0x1F) || wideBlanks.contains c.toNat

/-- The blanks that may surround a number: all of them but the four information separators. -/
def isNumberBlank (c : Char) : Bool :=
  isAsciiBlank c || wideBlanks.contains c.toNat

/-- Drops the matching characters at both ends. -/
def trimBoth (selects : Char → Bool) (text : List Char) : List Char :=
  ((text.dropWhile selects).reverse.dropWhile selects).reverse

def strip (text : List Char) : List Char := trimBoth isBlank text

/-- A text whose characters are all blank, the empty text included. -/
def isAllBlank (text : List Char) : Bool := text.all isBlank

end AirQuality.Text
