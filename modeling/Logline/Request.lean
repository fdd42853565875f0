/-
Requests. A request asks for one event to be rendered through a layout.
It arrives as values of any kind, and it is checked field by field: all
faults are reported together, in the order of the fields, before anything
else is done with it.

A level is asked for by name or by ordinal. A truth value counts as an
ordinal, and so does a floating-point number that is a whole one and fits
64 bits.
-/
import Logline.Calendar.Reading
import Logline.Level
import Logline.Value

namespace Logline

open Calendar Number

/-- A level as it is asked for. -/
inductive LevelAsked where
  | name (t : Text)
  | ordinal (n : Int)
  deriving DecidableEq, Repr

/-- The ordinal of the level that is asked for. -/
def LevelAsked.resolve (names : List Text) :
    LevelAsked → Except LevelError Int
  | name t => resolveLevel names t
  | ordinal n => .ok n

/-- Why a value is not an integer. -/
inductive IntegerError where
  | notNumber
  | notFinite
  | notWhole
  | tooLarge
  deriving DecidableEq, Repr

/-- The bound below which whole floating-point numbers are integers. -/
def wholeLimit : Int := twoTo 63

/-- The integer that a floating-point number is. -/
def integerOfDouble (d : Binary64) : Except IntegerError Int :=
  match d.toFraction? with
  | none => .error .notFinite
  | some f =>
    if f.isWhole then
      if -wholeLimit < f.floor ∧ f.floor < wholeLimit then .ok f.floor
      else .error .tooLarge
    else .error .notWhole

/-- The level that a value asks for. -/
def LevelAsked.ofValue : Value → Except IntegerError LevelAsked
  | .text t => .ok (name t)
  | .double d => (integerOfDouble d).map ordinal
  | value =>
    match value.toInt? with
    | some n => .ok (ordinal n)
    | none => .error .notNumber

/-- The moment that a value asks for; none when it is left open. -/
def momentOfValue : Value → Except TimestampError (Option Timestamp)
  | .null => .ok none
  | .text t => (Timestamp.ofText t).map some
  | .int n => (Timestamp.ofInteger n).map some
  | .double d => (Timestamp.ofDouble d).map some
  | _ => .error .wrongKind

/-- A fault of one field of a request. -/
inductive FieldFault where
  | loggerNameNotText
  | levelNotText
  | levelNotInteger (why : IntegerError)
  | messageNotText
  | badTimestamp (why : TimestampError)
  deriving DecidableEq, Repr

namespace FieldFault

/-- Where the fault is: the field, and for a level also which of its two
readings fails. -/
def location : FieldFault → List Text
  | loggerNameNotText => ["logger_name"]
  | levelNotText => ["level", "str"]
  | levelNotInteger _ => ["level", "int"]
  | messageNotText => ["message"]
  | badTimestamp _ => ["timestamp"]

/-- The name of the fault. -/
def name : FieldFault → Text
  | loggerNameNotText => "string_type"
  | levelNotText => "string_type"
  | messageNotText => "string_type"
  | levelNotInteger .notNumber => "int_type"
  | levelNotInteger .notFinite => "finite_number"
  | levelNotInteger .notWhole => "int_from_float"
  | levelNotInteger .tooLarge => "int_parsing_size"
  | badTimestamp .wrongKind => "datetime_type"
  | badTimestamp .unreadable => "datetime_from_date_parsing"
  | badTimestamp .outOfRange => "datetime_parsing"

end FieldFault

/-- How many faults something has: a count, and what it is counted on. -/
def faultCountMessage (count : Nat) (subject : Text) : Text :=
  Text.ofNat count ++ " validation error" ++
    (if count = 1 then "" else "s") ++ " for " ++ subject

/-- The event of a request, as it arrives. -/
structure EventRequest where
  loggerName : Value
  level : Value
  message : Value
  timestamp : Value

/-- The event of a request once it is checked. -/
structure CheckedEvent where
  loggerName : Text
  level : LevelAsked
  message : Text
  moment : Option Timestamp

namespace EventRequest

/-- A field that has to be a text. -/
def checkText (fault : FieldFault) : Value → Except (List FieldFault) Text
  | .text t => .ok t
  | _ => .error [fault]

/-- The level. When it is not one, both of its readings are at fault. -/
def checkLevel (value : Value) : Except (List FieldFault) LevelAsked :=
  (LevelAsked.ofValue value).mapError fun why =>
    [.levelNotText, .levelNotInteger why]

/-- The timestamp. -/
def checkMoment (value : Value) :
    Except (List FieldFault) (Option Timestamp) :=
  (momentOfValue value).mapError fun why => [.badTimestamp why]

/-- The faults of a checked field. -/
def faults {α : Type} : Except (List FieldFault) α → List FieldFault
  | .ok _ => []
  | .error found => found

/-- Checks all fields. -/
def check (r : EventRequest) : Except (List FieldFault) CheckedEvent :=
  match checkText .loggerNameNotText r.loggerName, checkLevel r.level,
    checkText .messageNotText r.message, checkMoment r.timestamp with
  | .ok loggerName, .ok level, .ok message, .ok moment =>
    .ok ⟨loggerName, level, message, moment⟩
  | loggerName, level, message, moment =>
    .error (faults loggerName ++ faults level ++ faults message ++
      faults moment)

end EventRequest

end Logline
