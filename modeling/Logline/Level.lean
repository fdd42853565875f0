/-
Levels. An event carries the ordinal of its level: its place in a table
of names, the gravest first. The ordinal may lie outside the table.

A level can also be asked for by name, in any case and with blanks
around it, or by its ordinal written in decimal. And a record's numeric
severity, which grows with gravity, falls into one of the default levels.
-/
import Logline.Number.Numeral
import Logline.Text.Blank
import Logline.Text.Case

namespace Logline

/-- The place of a level, as an event carries it. A truth value counts as
one or zero. -/
inductive Ordinal where
  | number (n : Int)
  | flag (b : Bool)
  deriving DecidableEq, Repr

namespace Ordinal

/-- The place as an integer. -/
def toInt : Ordinal → Int
  | number n => n
  | flag b => if b then 1 else 0

/-- The ordinal as messages show it. -/
def text : Ordinal → Text
  | number n => Text.ofInt n
  | flag b => if b then "True" else "False"

end Ordinal

/-- The default levels, the gravest first. -/
inductive Severity where
  | fatal
  | error
  | warn
  | info
  | debug
  | trace
  | all
  deriving DecidableEq, Repr

namespace Severity

/-- The levels in the order of their ordinals. -/
def inOrder : List Severity :=
  [fatal, error, warn, info, debug, trace, all]

/-- The place of a level in the default table. -/
def ordinal : Severity → Nat
  | fatal => 0
  | error => 1
  | warn => 2
  | info => 3
  | debug => 4
  | trace => 5
  | all => 6

/-- The name of a level. -/
def name : Severity → Text
  | fatal => "FATAL"
  | error => "ERROR"
  | warn => "WARN"
  | info => "INFO"
  | debug => "DEBUG"
  | trace => "TRACE"
  | all => "ALL"

/-- The level of a record's numeric severity: the gravest whose threshold
it reaches. -/
def ofNumber (n : Int) : Severity :=
  if 50 ≤ n then fatal
  else if 40 ≤ n then error
  else if 30 ≤ n then warn
  else if 20 ≤ n then info
  else if 10 ≤ n then debug
  else trace

theorem inOrder_ordinal (s : Severity) : inOrder[s.ordinal]? = some s := by
  cases s <;> rfl

end Severity

/-- The names of the default levels. -/
def defaultLevelNames : List Text :=
  Severity.inOrder.map Severity.name

-- ===================================================== levels by name

/-- Why a level is not found. -/
inductive LevelError where
  /-- No level of the table has the name. -/
  | unknownName (asked : Text) (names : List Text)
  /-- A numeral of so many digits is too long. -/
  | tooManyDigits (count : Nat)
  deriving DecidableEq, Repr

/-- The wording of a level that is not found. -/
def LevelError.message : LevelError → Text
  | unknownName asked names =>
    "Unknown log level '" ++ asked ++ "'. Valid values: " ++
      Text.joinWith ", " names ++
      ". Tip: levels are case-insensitive (e.g., 'info', 'ERROR')."
  | tooManyDigits count => Number.longNumeralMessage count

/-- The sign and digits of a text that is an integer in decimal: one minus
sign at most, then ASCII digits. -/
def numeral? (t : Text) : Option (Bool × Text) :=
  let (negative, digits) : Bool × Text :=
    match t with
    | '-' :: rest => (true, rest)
    | _ => (false, t)
  if digits ≠ [] ∧ digits.all Char.isDigit then some (negative, digits)
  else none

/-- The place of the first name that is the same in upper case. -/
def findLevel? (names : List Text) (name : Text) : Option Nat :=
  names.findIdx? fun known => Text.upper known = Text.upper name

/-- The ordinal that a text asks for: a numeral is the ordinal itself,
anything else the name of a level of the table. -/
def resolveLevel (names : List Text) (asked : Text) :
    Except LevelError Int :=
  let name := Text.trim asked
  match numeral? name with
  | some (negative, digits) =>
    (Number.ofNumeral negative digits).mapError .tooManyDigits
  | none =>
    match findLevel? names name with
    | some place => .ok place
    | none => .error (.unknownName asked names)

end Logline
