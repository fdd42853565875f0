/-
The renderer. It writes one line for an event: the pieces of a template
in order, each literal as it is and each placeholder replaced by the
event's field. What is put in is never read again, so a percent sign in
a message stays one.

A renderer is built from a configuration whose date style is known. The
pieces are looked at from left to right, and the first one that cannot be
shown is the error; that a logger name is not a text is found only when
all pieces have been shown and are joined.
-/
import Logline.Config
import Logline.Layout.Template
import Logline.Value.Display

namespace Logline

open Calendar Layout

/-- What is logged. -/
structure Event where
  loggerName : Value
  timestamp : Timestamp
  level : Ordinal
  payload : Value

/-- Why there is no line. -/
inductive RenderError where
  /-- The configuration's date style is not known. -/
  | unknownStyle (name : Text)
  /-- The level is outside the table, and that is not allowed. -/
  | levelOutside (level : Ordinal) (tableSize : Nat)
  /-- The template has a piece of an unknown kind. -/
  | unsupportedKind (name : Text)
  /-- The logger name at a place of the template is not a text. -/
  | loggerNotText (index : Nat) (kindName : Text)
  deriving DecidableEq, Repr

/-- The wording of a missing line. -/
def RenderError.message : RenderError → Text
  | unknownStyle name => DateStyle.unknownMessage name
  | levelOutside level tableSize =>
    "Level ordinal " ++ level.text ++
      " is outside the level-name table (0.." ++
      Text.ofInt ((tableSize : Int) - 1) ++ ")"
  | unsupportedKind name =>
    "Unsupported piece kind: " ++ Text.quoted name
  | loggerNotText index kindName =>
    "sequence item " ++ Text.ofNat index ++
      ": expected str instance, " ++ kindName ++ " found"

/-- A configuration together with the date style that it names. -/
structure Renderer where
  config : Config
  style : DateStyle
  style_known : DateStyle.ofName? config.dateStyle = some style

namespace Renderer

/-- The renderer of a configuration, if its date style is known. -/
def ofConfig (config : Config) : Except RenderError Renderer :=
  match h : DateStyle.ofName? config.dateStyle with
  | some style => .ok ⟨config, style, h⟩
  | none => .error (.unknownStyle config.dateStyle)

/-- The name of a level: its entry in the table, or the name for levels
outside of it where they are allowed. -/
def levelName (r : Renderer) (level : Ordinal) : Except RenderError Text :=
  let names := r.config.levelNames
  let place := level.toInt
  match if 0 ≤ place then names[place.toNat]? else none with
  | some name => .ok name
  | none =>
    if r.config.strictLevels then .error (.levelOutside level names.length)
    else .ok r.config.unknownLevelName

/-- What one piece shows. A logger name may be any value. -/
def showPiece (r : Renderer) (event : Event) (piece : Piece) :
    Except RenderError Value :=
  match piece.kind with
  | .text => .ok (.text piece.payload)
  | .loggerName => .ok event.loggerName
  | .timestamp =>
    .ok (.text (r.style.format event.timestamp piece.payload))
  | .level => (r.levelName event.level).map .text
  | .message => .ok (.text event.payload.display)
  | .other name => .error (.unsupportedKind name)

/-- Joins what the pieces show; `index` is the place of the first. -/
def joinShown (index : Nat) : List Value → Except RenderError Text
  | [] => .ok []
  | .text t :: rest => do
    let after ← joinShown (index + 1) rest
    return t ++ after
  | value :: _ => .error (.loggerNotText index value.kindName)

/-- The line of an event. -/
def render (r : Renderer) (event : Event) (template : Template) :
    Except RenderError Text := do
  let shown ← template.pieces.mapM (r.showPiece event)
  joinShown 0 shown

end Renderer

end Logline
