/-
Formatters. A formatter turns records into lines: its template is
compiled and its renderer built once, and the line of a record is the
line of its event, followed by the text of its failure and that of its
stack. Each of those starts on a line of its own, and one that is empty
leaves no trace.

A successful run keeps the text of the failure in the record, and nothing
else of the record changes; a run that fails changes nothing.
-/
import Logline.Layout.Scanner
import Logline.Record

namespace Logline

open Layout

/-- The layout that lines have unless another is asked for. -/
def defaultLayout : Text :=
  "%d\x7b%Y-%m-%d %H:%M:%S\x7d %p %c: %m"

/-- Why there is no formatter. -/
inductive FormatterError where
  | environment (why : ConfigError)
  | badLayout (why : Fault)
  | badStyle (why : RenderError)
  deriving DecidableEq, Repr

/-- The wording of a missing formatter. -/
def FormatterError.message : FormatterError → Text
  | environment why => why.message
  | badLayout why => why.message
  | badStyle why => why.message

/-- Why a record has no line. -/
inductive FormatError where
  | badRecord (why : RecordError)
  | badLine (why : RenderError)
  | badFailure (why : Failure.TextError)
  deriving DecidableEq, Repr

/-- The wording of a missing line. -/
def FormatError.message : FormatError → Text
  | badRecord why => why.message
  | badLine why => why.message
  | badFailure why => why.message

/-- Adds a part below a text: on a line of its own, unless it is empty.
An empty text counts as an unfinished line. -/
def appendPart (t part : Text) : Text :=
  if part = [] then t
  else if t.getLast? = some '\n' then t ++ part
  else t ++ '\n' :: part

/-- Turns records into lines. -/
structure Formatter where
  template : Template
  renderer : Renderer

namespace Formatter

/-- The formatter of a layout and a configuration. The layout is compiled
before the date style is looked up. -/
def ofLayout (layout : Text) (config : Config) :
    Except FormatterError Formatter := do
  let template ← (compile layout).mapError .badLayout
  let renderer ← (Renderer.ofConfig config).mapError .badStyle
  return ⟨template, renderer⟩

/-- The formatter that the environment asks for. The configuration is
resolved before the layout is compiled. -/
def ofEnvironment (env : Environment) : Except FormatterError Formatter := do
  let config ← (Config.resolve {} env).mapError .environment
  ofLayout ((env.given? .serverLayout).getD defaultLayout) config

/-- The line of a record's event. -/
def eventLine (f : Formatter) (r : Record) : Except FormatError Text := do
  let event ← r.event.mapError .badRecord
  (f.renderer.render event f.template).mapError .badLine

/-- The line of a record, and the record with the text of its failure
kept. -/
def format (f : Formatter) (r : Record) :
    Except FormatError (Text × Record) := do
  let line ← f.eventLine r
  let kept ← r.currentFailureText.mapError .badFailure
  let line := appendPart line (kept.getD [])
  return (appendPart line (r.stack.getD []), { r with failureText := kept })

end Formatter

end Logline
