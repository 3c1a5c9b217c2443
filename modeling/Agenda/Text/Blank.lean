import Agenda.Text.CodePoints
/-!
# Blanks

* `Blank.isBlank` — the characters with the property White_Space: 25 of them, in ten ranges.
* `Blank.trim` — a text without the blanks at its two ends.
-/

set_option autoImplicit false

namespace Agenda.Blank

/-- The closed ranges of blank code points, ascending and apart. -/
def ranges : CodePoints :=
  [(0x09, 0x0D), (0x20, 0x20), (0x85, 0x85), (0xA0, 0xA0), (0x1680, 0x1680), (0x2000, 0x200A),
   (0x2028, 0x2029), (0x202F, 0x202F), (0x205F, 0x205F), (0x3000, 0x3000)]

/-- Whether a character is blank. -/
def isBlank (c : Char) : Bool := ranges.contains c.toNat

/-- Drops the blanks before a text. -/
def trimLeft (s : List Char) : List Char := s.dropWhile isBlank

/-- Drops the blanks after a text. -/
def trimRight (s : List Char) : List Char := (s.reverse.dropWhile isBlank).reverse

/-- Drops the blanks at both ends of a text. -/
def trim (s : List Char) : List Char := trimRight (trimLeft s)

end Agenda.Blank
