/-
The server's log. Before the server takes requests it sets up a log of
its own on the error output: a formatter from the environment, and the
least severity that is written. The severity is given by name, in any
case, and an unknown name means the usual one.

Two further names stand for settings of the log that are no severities.
They are refused, and only after the formatter has been built.
-/
import Logline.Formatter
import Logline.Tool

namespace Logline

open Calendar Layout

/-- What a name stands for among the settings of the log. -/
inductive LogSetting where
  | severity (n : Int)
  /-- A setting that is a text. -/
  | text (t : Text)
  /-- A setting of another kind, as it is shown. -/
  | other (shown : Text)
  deriving DecidableEq, Repr

namespace LogSetting

/-- The severity of messages that tell how things go. -/
def info : Int := 20

/-- The severity of messages that are for looking into things. -/
def debug : Int := 10

/-- The names that stand for something. -/
def known : List (Text × LogSetting) := [
  ("CRITICAL", severity 50),
  ("FATAL", severity 50),
  ("ERROR", severity 40),
  ("WARNING", severity 30),
  ("WARN", severity 30),
  ("INFO", severity info),
  ("DEBUG", severity debug),
  ("NOTSET", severity 0),
  ("BASIC_FORMAT", text "%(levelname)s:%(name)s:%(message)s"),
  ("_STYLES", other
    ("\x7b'%': (<class 'logging.PercentStyle'>, " ++
      "'%(levelname)s:%(name)s:%(message)s'), " ++
      "'\x7b': (<class 'logging.StrFormatStyle'>, " ++
      "'\x7blevelname\x7d:\x7bname\x7d:\x7bmessage\x7d'), " ++
      "'$': (<class 'logging.StringTemplateStyle'>, " ++
      "'$\x7blevelname\x7d:$\x7bname\x7d:$\x7bmessage\x7d')\x7d"))]

/-- The setting that a name stands for. -/
def ofName (name : Text) : LogSetting :=
  (known.lookup (Text.upper name)).getD (severity info)

/-- The setting that the environment asks for. -/
def ofEnvironment (env : Environment) : LogSetting :=
  match env.value .logLevel with
  | some name => ofName name
  | none => severity info

end LogSetting

/-- Why the log cannot be set up. -/
inductive SetupError where
  | noFormatter (why : FormatterError)
  /-- The setting is a text, but no severity has it as its name. -/
  | unknownSeverity (name : Text)
  /-- The setting is neither a number nor a name. -/
  | notSeverity (shown : Text)
  deriving DecidableEq, Repr

/-- The wording of a log that cannot be set up. -/
def SetupError.message : SetupError → Text
  | noFormatter why => why.message
  | unknownSeverity name => "Unknown level: " ++ Text.quoted name
  | notSeverity shown =>
    "Level not an integer or a valid string: " ++ shown

/-- The severity that is written before the log is set up. -/
def initialSeverity : Int := 30

/-- A server with its log. -/
structure Server where
  formatter : Formatter
  leastSeverity : Int

namespace Server

/-- Sets up the log. -/
def setUp (env : Environment) : Except SetupError Server := do
  let formatter ← (Formatter.ofEnvironment env).mapError .noFormatter
  match LogSetting.ofEnvironment env with
  | .severity n => return ⟨formatter, n⟩
  | .text name => throw (.unknownSeverity name)
  | .other shown => throw (.notSeverity shown)

/-- What is written for a message of a logger: a line, if the message is
severe enough. -/
def logged (s : Server) (now : Seconds) (loggerName : Text)
    (severity : Int) (message : Text) (arguments : List Value) : Text :=
  if severity < s.leastSeverity then []
  else
    let record : Record :=
      { loggerName := .text loggerName
        severity := severity
        created := now
        message := .text message
        arguments := .ordered arguments }
    match s.formatter.format record with
    | .ok (line, _) => line ++ "\n"
    | .error _ => []

/-- How the server is connected to its client. -/
def transport : Text := "stdio"

/-- What is written when the server starts. -/
def startLog (s : Server) (now : Seconds) : Text :=
  s.logged now "mcp_log_layout_server.server.log_server" LogSetting.debug
    ("Starting MCP server (transport=" ++ transport ++ ")") []

/-- Compiles a layout for the client. A layout that is refused is
mentioned in the log. -/
def compile (s : Server) (now : Seconds) (layout : Text) :
    Except Fault Template × Text :=
  match Layout.compile layout with
  | .ok template => (.ok template, [])
  | .error fault =>
    (.error fault,
      s.logged now "mcp_log_layout_server.tools.layout" LogSetting.debug
        "Layout rejected at position %s: %s"
        [.int fault.position, .text fault.message])

/-- Compiles layouts one after another. -/
def compileAll (s : Server) (now : Seconds) (layouts : List Text) :
    List (Except Fault Template) × Text :=
  let answers := layouts.map (s.compile now)
  (answers.map (·.1), (answers.map (·.2)).flatten)

end Server

end Logline
