/-
Date styles. A date style is one of the two vocabularies that date
patterns are written in.
-/
import Logline.Calendar.Directive
import Logline.Calendar.Reference

namespace Logline.Calendar

/-- A vocabulary of date patterns. -/
inductive DateStyle where
  | directives
  | reference
  deriving DecidableEq, Repr

namespace DateStyle

/-- The styles, in the order in which messages list them. -/
def all : List DateStyle := [directives, reference]

/-- The name of a style. -/
def name : DateStyle → Text
  | directives => "strftime"
  | reference => "reference"

/-- The style with a given name. -/
def ofName? (name : Text) : Option DateStyle :=
  all.find? fun style => style.name = name

/-- The names of all styles, as messages list them. -/
def choices : Text :=
  Text.joinWith ", " (all.map name)

/-- The wording for a name that is no style's. -/
def unknownMessage (name : Text) : Text :=
  "Unknown date style '" ++ name ++ "'. Valid values: " ++ choices ++ "."

/-- Writes a timestamp by a pattern of the style. -/
def format : DateStyle → Timestamp → Text → Text
  | directives => formatDirectives
  | reference => formatReference

theorem ofName?_name (style : DateStyle) : ofName? style.name = some style := by
  cases style with
  | directives => decide
  | reference => decide

theorem name_of_ofName? {name : Text} {style : DateStyle}
    (h : ofName? name = some style) : style.name = name := by
  simpa using List.find?_some h

end DateStyle

end Logline.Calendar
