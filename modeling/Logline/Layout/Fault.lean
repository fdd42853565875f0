/-
Faults of a layout. A layout is refused at the first character that no
placeholder allows, or at its end when a placeholder is still open. Every
fault has a position; the ones at a character also have that character.
Positions are the scanner's, so one below zero counts from the end.
-/
import Logline.Text.Quoted

namespace Logline.Layout

/-- Why a layout does not compile. -/
inductive Fault where
  /-- The character after a percent sign names no placeholder. -/
  | unknownIdentifier (found : Char) (position : Int)
  /-- The character after the date placeholder does not open a brace. -/
  | expectedBrace (found : Char) (position : Int)
  /-- The layout ends after a percent sign. -/
  | endsAfterPercent (length : Nat)
  /-- The layout ends where a brace should open. -/
  | endsBeforeBrace (length : Nat)
  /-- The layout ends inside a date pattern that starts at `start`. -/
  | endsInsidePattern (start : Int) (length : Nat)
  deriving DecidableEq, Repr

namespace Fault

/-- Where the layout stops following the grammar. -/
def position : Fault → Int
  | unknownIdentifier _ position => position
  | expectedBrace _ position => position
  | endsAfterPercent length => length
  | endsBeforeBrace length => length
  | endsInsidePattern _ length => length

/-- The character at the fault; none at the end of the layout. -/
def identifier : Fault → Option Char
  | unknownIdentifier found _ => some found
  | expectedBrace found _ => some found
  | _ => none

/-- The wording of a fault. The position named for an open pattern is
that of its brace, one before the pattern. -/
def message : Fault → Text
  | unknownIdentifier found position =>
    "Unknown layout identifier " ++ Text.quoted [found] ++ " at position " ++
      Text.ofInt position ++
      ". Valid placeholders: %c, %d\x7b...\x7d, %p, %m, %%"
  | expectedBrace found position =>
    "%d should be followed by a date format in braces like " ++
      "%d\x7b...\x7d, but found " ++ Text.quoted [found] ++
      " at position " ++ Text.ofInt position
  | endsAfterPercent _ =>
    "Unterminated placeholder: layout ends right after '%' " ++
      "(use %% for a literal percent)"
  | endsBeforeBrace _ =>
    "Unterminated placeholder: %d should be followed by a date format " ++
      "in braces like %d\x7b...\x7d"
  | endsInsidePattern start _ =>
    "Unterminated placeholder: date format opened at position " ++
      Text.ofInt (start - 1) ++ " is missing '\x7d'"

end Fault

end Logline.Layout
