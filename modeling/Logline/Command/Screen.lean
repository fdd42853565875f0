/-
What the command line says about itself. There is a screen for the
program and one for each of its commands: a usage note, which also heads
every usage error, and a help text, which starts with the note.
-/
import Logline.Calendar.Style
import Logline.Command.Grammar

namespace Logline

open Calendar

/-- The commands. -/
inductive Command where
  | check
  | render
  | serve
  deriving DecidableEq, Repr

namespace Command

/-- The commands in the order in which they are listed. -/
def all : List Command := [check, render, serve]

/-- The word for a command. -/
def word : Command → Text
  | check => "check"
  | render => "render"
  | serve => "serve"

/-- The command with a given word. -/
def ofWord? (word : Text) : Option Command :=
  all.find? fun c => c.word = word

/-- The name of the program. -/
def programName : Text := "mcp-log-layout"

/-- The option for the logger name. -/
def loggerOption : Text := "--logger"

/-- The option for the level. -/
def levelOption : Text := "--level"

/-- The option for the message. -/
def messageOption : Text := "--message"

/-- The option for the timestamp. -/
def timestampOption : Text := "--timestamp"

/-- The option for the date style. -/
def dateStyleOption : Text := "--date-style"

/-- The name of the place for a layout. -/
def layoutPlace : Text := "layout"

/-- The name of the place for a command. -/
def commandPlace : Text := "command"

/-- The grammar of the whole command line: help, or a command with its
own words. -/
def mainGrammar : Grammar := ⟨[.help], .remaining commandPlace⟩

/-- The grammar of a command's own words. -/
def grammar : Command → Grammar
  | check => ⟨[.help], .single layoutPlace⟩
  | render =>
    ⟨[.help, .valued loggerOption [], .valued levelOption [],
      .valued messageOption [], .valued timestampOption [],
      .valued dateStyleOption (DateStyle.all.map DateStyle.name)],
      .single layoutPlace⟩
  | serve => ⟨[.help], .absent⟩

/-- Where the program speaks from. -/
inductive Screen where
  | main
  | command (c : Command)
  deriving DecidableEq, Repr

namespace Screen

/-- How a screen names the program. -/
def program : Screen → Text
  | main => programName
  | command c => programName ++ " " ++ c.word

/-- The lines of a text. -/
def lines (ts : List String) : Text :=
  ts.flatMap fun t => t.toList ++ ['\n']

/-- The usage note. -/
def usage : Screen → Text
  | main => lines [
    "usage: mcp-log-layout [-h] \x7bcheck,render,serve\x7d ..."]
  | command check => lines ["usage: mcp-log-layout check [-h] layout"]
  | command render => lines [
    "usage: mcp-log-layout render [-h] [--logger LOGGER] [--level LEVEL]",
    "                             [--message MESSAGE] [--timestamp TIMESTAMP]",
    "                             [--date-style \x7bstrftime,reference\x7d]",
    "                             layout"]
  | command serve => lines ["usage: mcp-log-layout serve [-h]"]

/-- What the help text has below the usage note. -/
def details : Screen → Text
  | main => lines [
    "",
    "Compile log layout strings and render events through them.",
    "",
    "positional arguments:",
    "  \x7bcheck,render,serve\x7d",
    "    check               Compile a layout and list its pieces",
    "    render              Render one event through a layout",
    "    serve               Run the MCP server over stdio",
    "",
    "options:",
    "  -h, --help            show this help message and exit"]
  | command check => lines [
    "",
    "positional arguments:",
    "  layout",
    "",
    "options:",
    "  -h, --help  show this help message and exit"]
  | command render => lines [
    "",
    "positional arguments:",
    "  layout",
    "",
    "options:",
    "  -h, --help            show this help message and exit",
    "  --logger LOGGER       Logger name for %c (default: root)",
    "  --level LEVEL         Level name or ordinal for %p (default: INFO)",
    "  --message MESSAGE     Message for %m",
    "  --timestamp TIMESTAMP",
    "                        ISO8601 time for %d (assumes UTC if tz missing)",
    "  --date-style \x7bstrftime,reference\x7d"]
  | command serve => lines [
    "",
    "options:",
    "  -h, --help  show this help message and exit"]

/-- The help text. -/
def help (s : Screen) : Text :=
  s.usage ++ s.details

/-- A usage error: the usage note, and what is wrong. -/
def complaint (s : Screen) (why : UsageError) : Text :=
  s.usage ++ s.program ++ ": error: " ++ why.message ++ "\n"

end Screen

end Command

end Logline
