/-
The command line. It checks a layout and lists its pieces, renders an
event through a layout, or starts the server. A run that succeeds writes
to the standard output, and a failure that the program expects is
reported on the error output. A failure that it does not expect breaks
the run off, with an exit code of its own.

The standard output is taken to hold every text, so that writing to it
never fails, and never stops halfway. A closed output, or one that
refuses some character, is no part of a run here.
-/
import Logline.Command.Screen
import Logline.Server
import Logline.Tool

namespace Logline

open Calendar Layout

namespace Command

/-- How a run ends. What it has for the standard output is written there
as a whole, whatever its characters are. -/
structure Outcome where
  exitCode : Nat
  stdout : Text
  stderr : Text
  deriving DecidableEq, Repr

namespace Outcome

/-- A run that succeeds with some output. -/
def success (output : Text) : Outcome := ⟨0, output, []⟩

/-- The exit code of every run that fails. -/
def failureCode : Nat := 2

/-- A run that fails for what is wrong with its input. -/
def failure (message : Text) : Outcome :=
  ⟨failureCode, [], "Error: " ++ message ++ "\n"⟩

/-- A run that is broken off by a failure that the program does not
expect. -/
def breakdown (message : Text) : Outcome := ⟨1, [], message ++ "\n"⟩

end Outcome

/-- What a command line asks for. -/
inductive Task where
  | check (layout : Text)
  | render (request : RenderRequest)
  | serve

-- ============================================================= reading

/-- What is said when a command line is not read to its end. -/
def stopped (screen : Screen) : Stop → Outcome
  | .help => .success screen.help
  | .usage why => ⟨Outcome.failureCode, [], screen.complaint why⟩

/-- What an option says. One that is given with nothing says an empty
list, which is not a text. -/
def optionValue (r : Reading) (name : Text) (otherwise : Value) : Value :=
  match r.value? name with
  | none => otherwise
  | some none => .list []
  | some (some value) => .text value

/-- The request of the render command. -/
def renderRequest (r : Reading) (layout : Text) : RenderRequest where
  layout := layout
  event :=
    { loggerName := optionValue r loggerOption (.text "root")
      level := optionValue r levelOption (.text Severity.info.name)
      message := optionValue r messageOption (.text [])
      timestamp := optionValue r timestampOption .null }
  dateStyle := optionValue r dateStyleOption .null

/-- What a command is asked to do by its own words. -/
def task (c : Command) (r : Reading) : Task :=
  let layout := (r.placed.getD []).headD []
  match c with
  | .check => .check layout
  | .render => .render (renderRequest r layout)
  | .serve => .serve

/-- Reads the words of a command after it has been named; `aside` are the
words that nothing took before. -/
def readCommand (c : Command) (aside words : List Text) :
    Except Outcome Task := do
  let r ← (c.grammar.read words).mapError (stopped (.command c))
  match aside ++ r.aside with
  | [] => return c.task r
  | unrecognized =>
    throw (stopped .main (.usage (.unrecognized unrecognized)))

/-- Reads a command line. -/
def read (words : List Text) : Except Outcome Task := do
  let r ← (mainGrammar.read words).mapError (stopped .main)
  let placed := r.placed.getD []
  let name := placed.headD []
  match ofWord? name with
  | some c => readCommand c r.aside placed.tail
  | none => throw (stopped .main (.usage
      (.badChoice commandPlace name (all.map word))))

-- ============================================================= running

/-- What a listing says of a piece: its place, its kind, and its payload
in quotes. -/
def entry (place : Nat) (piece : Piece) : Text :=
  Text.ofNat place ++ " " ++ piece.kind.name ++ " " ++
    Text.quoted piece.payload

/-- The line of a listing that holds an entry. -/
def listingLine (place : Nat) (piece : Piece) : Text :=
  entry place piece ++ "\n"

/-- The listing of a template: its pieces, and their number below a blank
line. -/
def listing (template : Template) : Text :=
  (template.pieces.zipIdx.map fun (piece, place) =>
    listingLine place piece).flatten ++
    "\nCompiled " ++ Text.ofNat template.pieces.length ++ " pieces.\n"

/-- Is it among the failures that the program expects? A value that does
not suit is, and so is a level outside its table. A style or a logger name
that is not a text is not. -/
def isExpected : ToolError → Bool
  | .styleNotText _ => false
  | .badLine (.loggerNotText _ _) => false
  | _ => true

/-- How a run ends when a tool has no result. -/
def failed (why : ToolError) : Outcome :=
  if isExpected why then .failure why.message else .breakdown why.message

/-- Checks a layout. -/
def runCheck (layout : Text) : Outcome :=
  match compileTool layout with
  | .ok template => .success (listing template)
  | .error why => failed why

/-- Renders an event. -/
def runRender (now : Timestamp) (env : Environment) (r : RenderRequest) :
    Outcome :=
  match r.line now env {} with
  | .ok line => .success (line ++ "\n")
  | .error why => failed why

/-- What starting the server comes to. -/
inductive Start where
  | running (s : Server)
  | ended (o : Outcome)
  /-- The log cannot be set up, and the program does not expect it. -/
  | broken (why : SetupError)

/-- Starts the server. A setting of the log that is neither a number nor
a name is not among the failures that the program reports. -/
def start (env : Environment) : Start :=
  match Server.setUp env with
  | .ok s => .running s
  | .error (.notSeverity shown) => .broken (.notSeverity shown)
  | .error why => .ended (.failure why.message)

/-- What a command line comes to. -/
def run (now : Timestamp) (env : Environment) (words : List Text) : Start :=
  match read words with
  | .error outcome => .ended outcome
  | .ok (.check layout) => .ended (runCheck layout)
  | .ok (.render request) => .ended (runRender now env request)
  | .ok .serve => start env

end Command

end Logline
