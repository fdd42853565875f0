/-
Failures of the operating system. Their arguments are a number, its
wording, and the files that they are about. The general kind gives way to
the kind of the number, if the number is an integer and has one.

A blocked operation may have a count in place of the first file.
-/
import Logline.Failure.Argument
import Logline.Value.Display

namespace Logline.Failure

/-- The general kind of the operating system's failures. -/
def systemKind : Text := "OSError"

/-- Other names of the general kind. -/
def systemAliases : List Text := ["IOError", "EnvironmentError"]

/-- The kinds that stand for particular failure numbers. -/
def numberedKinds : List (Text × List Int) := [
  ("BlockingIOError", [11, 114, 115]),
  ("BrokenPipeError", [32, 108]),
  ("ChildProcessError", [10]),
  ("ConnectionAbortedError", [103]),
  ("ConnectionRefusedError", [111]),
  ("ConnectionResetError", [104]),
  ("FileExistsError", [17]),
  ("FileNotFoundError", [2]),
  ("InterruptedError", [4]),
  ("IsADirectoryError", [21]),
  ("NotADirectoryError", [20]),
  ("PermissionError", [1, 13]),
  ("ProcessLookupError", [3]),
  ("TimeoutError", [110]),
  ("ConnectionError", [])]

/-- The kind that does not tell which operation of it was held up. -/
def blockingKind : Text := "BlockingIOError"

/-- Is it a kind of the operating system? -/
def isSystemKind (kind : Text) : Bool :=
  kind = systemKind || numberedKinds.any (·.1 = kind)

/-- The kind that a failure number stands for. -/
def kindOfNumber? (value : Value) : Option Text := do
  let n ← value.toInt?
  let entry ← numberedKinds.find? fun entry => entry.2.contains n
  return entry.1

/-- Do the arguments start with a number and its wording? -/
def isNumbered (arguments : List Value) : Bool :=
  2 ≤ arguments.length && arguments.length ≤ 5

/-- The kind that a failure shows. -/
def shownKind (kind : Text) (arguments : List Value) : Text :=
  let kind := if systemAliases.contains kind then systemKind else kind
  if kind = systemKind && isNumbered arguments then
    (kindOfNumber? (arguments.getD 0 .null)).getD kind
  else kind

/-- Is the third argument the count of a blocked operation? A number is,
whatever it counts. -/
def isCount : Value → Bool
  | .bool _ | .int _ | .double _ => true
  | _ => false

/-- The third argument, unless it is nothing. -/
def third? (arguments : List Value) : Option Value :=
  match arguments[2]? with
  | none | some Value.null => none
  | some value => some value

/-- Looks at the arguments of a failure of the operating system: a count
has to be an integer of 64 bits. -/
def checkSystem (kind : Text) (arguments : List Value) :
    Except ArgumentError Unit :=
  match third? arguments with
  | some value =>
    if isNumbered arguments && shownKind kind arguments = blockingKind &&
        isCount value then
      requireSize .countOutOfRange value
    else .ok ()
  | none => .ok ()

/-- The files that a failure of the operating system is about: the third
argument, and with it the fifth. -/
def files (kind : Text) (arguments : List Value) : List Value :=
  match third? arguments with
  | none => []
  | some file =>
    if kind = blockingKind && isCount file then []
    else
      match arguments[4]? with
      | none | some Value.null => [file]
      | some other => [file, other]

/-- What a failure of the operating system says, if its arguments start
with a number: the number, its wording and the files. -/
def systemDetail? (kind : Text) (arguments : List Value) : Option Text :=
  if isSystemKind kind && isNumbered arguments then
    let wording := "[Errno " ++ (arguments.getD 0 .null).display ++ "] " ++
      (arguments.getD 1 .null).display
    match files kind arguments with
    | [] => some wording
    | named =>
      some (wording ++ ": " ++
        Text.joinWith " -> " (named.map Value.literal))
  else none

end Logline.Failure
