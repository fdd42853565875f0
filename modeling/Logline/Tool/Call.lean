/-
Tool calls. A tool is called by name, with named arguments of any kind.
The arguments are checked against the parameters of the tool before the
tool itself looks at them: every parameter that has no value of its type
counts as a fault, and the faults are only counted. Arguments that the
tool does not have are ignored.

A parameter that takes more than texts also takes the JSON text of an
object, a list or nothing at all in place of the value itself.
-/
import Logline.Tool
import Logline.Value.Json

namespace Logline

open Calendar Layout

/-- The tools. -/
inductive Tool where
  | compileLayout
  | renderLayout
  deriving DecidableEq, Repr

namespace Tool

/-- The tools in the order in which they are offered. -/
def all : List Tool := [compileLayout, renderLayout]

/-- The name of a tool. -/
def name : Tool → Text
  | compileLayout => "compile_layout"
  | renderLayout => "render_layout"

/-- The tool with a given name. -/
def ofName? (name : Text) : Option Tool :=
  all.find? fun tool => tool.name = name

/-- What a parameter takes. -/
inductive ParameterType where
  | text
  /-- The name or the ordinal of a level. -/
  | level
  /-- A text or nothing; it may be left out. -/
  | optionalText
  deriving DecidableEq, Repr

/-- The parameters of a tool. -/
def parameters : Tool → List (Text × ParameterType)
  | compileLayout => [("layout", .text)]
  | renderLayout => [("layout", .text), ("logger_name", .text),
      ("level", .level), ("message", .text), ("timestamp", .optionalText),
      ("date_style", .optionalText)]

-- =========================================================== arguments

/-- How deep lists and objects may lie inside one another in the JSON text
of an argument. -/
def argumentDepth : Nat := 978

/-- The value that an argument is taken for. A text that is no JSON text
stands for itself; one that cannot be read for its size is an error. -/
def argumentValue (type : ParameterType) (value : Value) :
    Except Value.JsonError Value :=
  match type, value with
  | .text, _ => .ok value
  | _, .text t =>
    match Value.ofJson argumentDepth t with
    | .ok .null => .ok .null
    | .ok (.list items) => .ok (.list items)
    | .ok (.object fields) => .ok (.object fields)
    | .ok _ | .error .malformed => .ok value
    | .error why => .error why
  | _, _ => .ok value

/-- The number of faults of an argument. A value that is no level is at
fault twice: it is neither a name nor an ordinal. -/
def faultCount (type : ParameterType) (value : Option Value) : Nat :=
  match type, value with
  | .optionalText, none | .optionalText, some Value.null => 0
  | _, none => 1
  | .level, some value =>
    match LevelAsked.ofValue value with
    | .ok _ => 0
    | .error _ => 2
  | _, some (.text _) => 0
  | _, some _ => 1

/-- The number of faults of the arguments for some parameters. -/
def faultTotal (arguments : List (Text × Value)) :
    List (Text × ParameterType) → Nat
  | [] => 0
  | (key, type) :: rest =>
    faultCount type (arguments.lookup key) + faultTotal arguments rest

/-- Why a call has no result. -/
inductive CallError where
  | unknownTool (name : Text)
  /-- The number of faults of the arguments. -/
  | badArguments (tool : Tool) (count : Nat)
  /-- The JSON text of an argument cannot be read. -/
  | unreadable (tool : Tool) (why : Value.JsonError)
  | failed (tool : Tool) (why : ToolError)
  deriving DecidableEq, Repr

/-- The wording of a failed call. -/
def CallError.message : CallError → Text
  | unknownTool name => "Unknown tool: " ++ name
  | badArguments tool count =>
    opening tool ++ faultCountMessage count (tool.name ++ "Arguments")
  | unreadable tool why => opening tool ++ why.message
  | failed tool why => opening tool ++ why.message
where
  /-- What comes before the cause. -/
  opening (tool : Tool) : Text :=
    "Error executing tool " ++ tool.name ++ ": "

/-- The arguments of a tool as they are taken, by parameter. -/
def takenArguments (tool : Tool) (arguments : List (Text × Value)) :
    Except Value.JsonError (List (Text × Value)) :=
  arguments.mapM fun (key, value) => do
    match tool.parameters.lookup key with
    | some type => return (key, ← argumentValue type value)
    | none => return (key, value)

-- ============================================================== calling

/-- What a tool results in. -/
inductive Result where
  | template (t : Template)
  | line (t : Text)
  deriving DecidableEq, Repr

/-- The value of an argument; nothing when it is left out. -/
def argument (arguments : List (Text × Value)) (key : Text) : Value :=
  (arguments.lookup key).getD .null

/-- The text of an argument. -/
def textArgument (arguments : List (Text × Value)) (key : Text) :
    Option Text :=
  match argument arguments key with
  | .text t => some t
  | _ => none

/-- What the render tool is asked for by its arguments. -/
def renderRequest (arguments : List (Text × Value)) : RenderRequest where
  layout := (textArgument arguments "layout").getD []
  event :=
    { loggerName := argument arguments "logger_name"
      level := argument arguments "level"
      message := argument arguments "message"
      timestamp := argument arguments "timestamp" }
  dateStyle := argument arguments "date_style"

/-- Runs a tool on arguments that have been checked. -/
def run (tool : Tool) (now : Timestamp) (env : Environment)
    (arguments : List (Text × Value)) : Except ToolError Result :=
  match tool with
  | compileLayout =>
    (compileTool ((textArgument arguments "layout").getD [])).map .template
  | renderLayout =>
    ((renderRequest arguments).line now env {}).map .line

/-- Calls a tool by name. -/
def call (now : Timestamp) (env : Environment) (name : Text)
    (arguments : List (Text × Value)) : Except CallError Result :=
  match ofName? name with
  | none => .error (.unknownTool name)
  | some tool => do
    let taken ← (tool.takenArguments arguments).mapError
      (.unreadable tool)
    let count := faultTotal taken tool.parameters
    if count ≠ 0 then throw (.badArguments tool count)
    (tool.run now env taken).mapError (.failed tool)

end Tool

end Logline
