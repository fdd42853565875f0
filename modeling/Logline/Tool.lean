/-
The two tools. One compiles a layout and lists its pieces, the other
renders one event through a layout.

The render tool looks at its input in a fixed order, and the first thing
that is wrong is the answer: the environment, the date style that is
asked for, the fields of the event, the layout, the level, the date style
of the configuration, and last the line itself.
-/
import Logline.Layout.Scanner
import Logline.Renderer
import Logline.Request

namespace Logline

open Calendar Layout

/-- Why a tool has no result. -/
inductive ToolError where
  /-- The environment cannot be used. -/
  | environment (why : ConfigError)
  /-- The date style that is asked for is not known. -/
  | unknownStyle (asked : Text)
  /-- What is asked for as a date style is not a text. -/
  | styleNotText (kind : Text)
  /-- Fields of the event are at fault. -/
  | badEvent (faults : List FieldFault)
  /-- The layout does not compile. -/
  | badLayout (why : Fault)
  /-- The level is not found. -/
  | badLevel (why : LevelError)
  /-- The event cannot be rendered. -/
  | badLine (why : RenderError)
  deriving DecidableEq, Repr

/-- The wording of a failed tool. Faults of fields are only counted. -/
def ToolError.message : ToolError → Text
  | environment why => why.message
  | unknownStyle asked => DateStyle.unknownMessage asked
  | styleNotText kind => Value.missingMessage kind "strip"
  | badEvent faults => faultCountMessage faults.length "EventInput"
  | badLayout why => why.message
  | badLevel why => why.message
  | badLine why => why.message

/-- Compiles a layout. -/
def compileTool (layout : Text) : Except ToolError Template :=
  (compile layout).mapError .badLayout

/-- What the render tool is asked for. A date style that says nothing is
not asked for. -/
structure RenderRequest where
  layout : Text
  event : EventRequest
  dateStyle : Value := .null

namespace RenderRequest

/-- The configuration with the date style that is asked for. -/
def styled (r : RenderRequest) (config : Config) : Except ToolError Config :=
  if !r.dateStyle.saysAnything then .ok config
  else
    match r.dateStyle with
    | .text asked =>
      match readStyle? asked with
      | some style => .ok { config with dateStyle := style.name }
      | none => .error (.unknownStyle asked)
    | other => .error (.styleNotText other.kindName)

/-- The event that a checked one stands for: the moment is `now` unless
it is given, and in UTC unless it has a zone. -/
def eventOf (now : Timestamp) (names : List Text) (checked : CheckedEvent) :
    Except LevelError Event := do
  let level ← checked.level.resolve names
  let moment := (checked.moment.getD now).withDefaultZone Zone.utc
  return ⟨.text checked.loggerName, moment, .number level,
    .text checked.message⟩

/-- The line of a request. -/
def line (r : RenderRequest) (now : Timestamp) (env : Environment)
    (config : Config) : Except ToolError Text := do
  let config ← (config.resolve env).mapError .environment
  let config ← r.styled config
  let checked ← r.event.check.mapError .badEvent
  let template ← compileTool r.layout
  let event ← (eventOf now config.levelNames checked).mapError .badLevel
  let renderer ← (Renderer.ofConfig config).mapError .badLine
  (renderer.render event template).mapError .badLine

end RenderRequest

end Logline
