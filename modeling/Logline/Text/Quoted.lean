/-
Quoted texts. A quoted text stands between two quote marks on one line:
line breaks, tabs, the backslash and the mark itself are written as
escapes, and so is every character that is not printable.

The mark is the single quote, unless the text holds single quotes and no
double quote: then the double quote saves the escapes.
-/
import Logline.Text
import Logline.Text.Printable

namespace Logline.Text

/-- The single quote. -/
def singleQuote : Char := '\x27'

/-- The double quote. -/
def doubleQuote : Char := '\x22'

/-- The mark that a text is quoted with. -/
def quoteMark (t : Text) : Char :=
  if t.contains singleQuote && !t.contains doubleQuote then doubleQuote
  else singleQuote

/-- A number in lower-case hexadecimal digits, filled up to a width. -/
def hexPadded (width n : Nat) : Text :=
  (Nat.toDigits 16 n).leftpad width '0'

/-- The escape of a code point, with as many digits as it needs. -/
def codeEscape (code : Nat) : Text :=
  if code < 0x100 then "\\x" ++ hexPadded 2 code
  else if code < 0x10000 then "\\u" ++ hexPadded 4 code
  else "\\U" ++ hexPadded 8 code

/-- How one character stands inside a quoted text. -/
def escaped (mark c : Char) : Text :=
  if c = mark || c = '\\' then ['\\', c]
  else if c = '\n' then "\\n"
  else if c = '\t' then "\\t"
  else if c = '\r' then "\\r"
  else if isPrintable c then [c]
  else codeEscape c.toNat

/-- The quoted form of a text. -/
def quoted (t : Text) : Text :=
  let mark := quoteMark t
  mark :: t.flatMap (escaped mark) ++ [mark]

end Logline.Text
