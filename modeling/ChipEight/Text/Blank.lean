/-!
# Blank characters around a number

Which characters may stand before and after the digits of a number. The six blanks of ASCII are
the space and the five layout characters from tab to carriage return. Beyond ASCII they are the
next-line control and the separators of Unicode. The information separators U+001C to U+001F are
not among them.

## Main definitions

* `Blank.isBlank`: whether a character is a blank.
-/

namespace ChipEight.Blank

/-- The blanks of ASCII: the space, and tab to carriage return. -/
def isAsciiBlank (c : Char) : Bool :=
  c == ' ' || (9 ≤ c.toNat && c.toNat ≤ 13)

/-- The code points of the blanks beyond ASCII. -/
def wideBlanks : List Nat :=
  [0x85, 0xA0, 0x1680, 0x2000, 0x2001, 0x2002, 0x2003, 0x2004, 0x2005, 0x2006, 0x2007, 0x2008,
    0x2009, 0x200A, 0x2028, 0x2029, 0x202F, 0x205F, 0x3000]

/-- Whether a character is a blank. -/
def isBlank (c : Char) : Bool :=
  isAsciiBlank c || wideBlanks.contains c.toNat

end ChipEight.Blank
