/-
Blank characters and trimming. A character is blank when Unicode gives
it a white-space direction or category: the ASCII controls from tab to
carriage return, the four information separators, and the space
characters. The zero-width space and the byte order mark are not blank.
-/
import Logline.Text

namespace Logline.Text

/-- The code points of the blank characters. -/
def blankCodes : List Nat := [
  0x0009, 0x000a, 0x000b, 0x000c, 0x000d, 0x001c, 0x001d, 0x001e,
  0x001f, 0x0020, 0x0085, 0x00a0, 0x1680, 0x2000, 0x2001, 0x2002,
  0x2003, 0x2004, 0x2005, 0x2006, 0x2007, 0x2008, 0x2009, 0x200a,
  0x2028, 0x2029, 0x202f, 0x205f, 0x3000]

/-- A blank character. -/
def isBlank (c : Char) : Bool :=
  blankCodes.contains c.toNat

/-- The text without the blanks at its two ends. -/
def trim (t : Text) : Text :=
  ((t.dropWhile isBlank).reverse.dropWhile isBlank).reverse

end Logline.Text
