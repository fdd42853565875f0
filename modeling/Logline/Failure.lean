/-
Failures and their text. A failure has a kind and arguments. It may have
been caused by an earlier failure, or have come up while an earlier one
was being handled; the text then starts with the earlier failure, and a
cause is named in preference to what was being handled.

Most kinds show their arguments: nothing for none, the argument itself
for one, and all of them in parentheses for more. A failed look-up shows
its key as a literal. The failures of the operating system, of encoding
and of reading source text have wordings of their own.

What failures tell is made for all of them before any of it is shown.
-/
import Logline.Failure.Coding
import Logline.Failure.Group
import Logline.Failure.Kind
import Logline.Failure.Source
import Logline.Failure.System

namespace Logline

/-- A failure with the earlier ones that it goes back to. -/
inductive Failure where
  | raised (kind : Text) (arguments : List Value)
      (cause context : Option Failure)

namespace Failure

-- =========================================================== arguments

/-- Looks at the kind and the arguments that a failure is to be made
of. -/
def check (kind : Text) (arguments : List Value) :
    Except ArgumentError Unit :=
  if !isKind kind then .error (.unknownKind kind)
  else if sourceKinds.contains kind then checkSource arguments
  else if groupKinds.contains kind then checkGroup arguments
  else if kind = encodeKind then checkEncoding arguments
  else if kind = decodeKind then checkDecoding arguments
  else if kind = translateKind then checkTranslating arguments
  else checkSystem kind arguments

-- ============================================================= showing

/-- Why a failure has no text. -/
inductive TextError where
  /-- A character that it tells of stands before its text. -/
  | noCharacter
  | badPlace (why : PlaceError)
  deriving DecidableEq, Repr

/-- The wording of a failure without a text. -/
def TextError.message : TextError → Text
  | noCharacter => "string index out of range"
  | badPlace why => why.message

/-- What stands between a cause and its effect. -/
def causeLine : Text :=
  "The above exception was the direct cause of the following exception:"

/-- What stands between a failure and one that came up while it was being
handled. -/
def contextLine : Text :=
  "During handling of the above exception, another exception occurred:"

/-- The kind of failed look-ups. -/
def lookUpKind : Text := "KeyError"

/-- The arguments of a failure, as it displays them. -/
def argumentText (kind : Text) (arguments : List Value) : Text :=
  match arguments with
  | [] => []
  | [value] => if kind = lookUpKind then value.literal else value.display
  | _ => Value.tupleText arguments

/-- What a failure says of itself, its kind as it is shown. -/
def detail (kind : Text) (arguments : List Value) : Text :=
  match systemDetail? kind arguments with
  | some said => said
  | none =>
    ((trouble? kind arguments).map Trouble.text).getD
      (argumentText kind arguments)

/-- A failure by itself, on one line unless its detail has more. -/
def ownText (kind : Text) (arguments : List Value) :
    Except PlaceError (List Run) :=
  if sourceKinds.contains kind then sourceText kind arguments
  else
    let kind := shownKind kind arguments
    match detail kind arguments with
    | [] => .ok [.text kind]
    | said => .ok [.text (kind ++ ": " ++ said)]

/-- A failure after an earlier one. -/
def joined (earlier : List Run) (link : Text) (own : List Run) : List Run :=
  earlier ++ .text ("\n\n" ++ link ++ "\n\n") :: own

/-- A failure with the earlier ones in front. -/
def chainText : Failure → Except PlaceError (List Run)
  | raised kind arguments (some cause) _ => do
    return joined (← cause.chainText) causeLine (← ownText kind arguments)
  | raised kind arguments none (some context) => do
    return joined (← context.chainText) contextLine
      (← ownText kind arguments)
  | raised kind arguments none none => ownText kind arguments

/-- Does a failure tell of a character that is not there? -/
def ownLoss (kind : Text) (arguments : List Value) : Bool :=
  (trouble? kind arguments).any (·.stretch.isLost)

/-- Does one of the failures that are shown tell of a character that is
not there? -/
def losesCharacter : Failure → Bool
  | raised kind arguments (some cause) _ =>
    ownLoss kind arguments || cause.losesCharacter
  | raised kind arguments none (some context) =>
    ownLoss kind arguments || context.losesCharacter
  | raised kind arguments none none => ownLoss kind arguments

/-- The text of a failure. -/
def text (f : Failure) : Except TextError Text := do
  if f.losesCharacter then throw .noCharacter
  let runs ← f.chainText.mapError .badPlace
  if Run.mostWritten < Run.totalLength runs then
    throw (.badPlace .tooManyMarks)
  return Run.expandAll runs

end Failure

end Logline
