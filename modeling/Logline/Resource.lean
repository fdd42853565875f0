/-
Resources: what a client can read about layouts before it asks for
anything. There is a list of the resources, the grammar of layouts, the
table of levels in effect, and the schema of the events that are
rendered. Each has an address. Only the table of levels depends on the
environment, and reading it fails when the environment cannot be used.
-/
import Logline.Config
import Logline.Value

namespace Logline

open Calendar

/-- What can be read. -/
inductive Resource where
  | help
  | grammar
  | levels
  | eventSchema
  deriving DecidableEq, Repr

namespace Resource

/-- All resources, in the order in which they are listed. -/
def all : List Resource := [help, grammar, levels, eventSchema]

/-- Where a resource is found. -/
def address : Resource → Text
  | help => "app://log-layout/help"
  | grammar => "app://log-layout/grammar"
  | levels => "app://log-layout/levels"
  | eventSchema => "app://log-layout/schemas/event"

/-- The resource at an address. -/
def ofAddress? (address : Text) : Option Resource :=
  all.find? fun r => r.address = address

/-- The grammar of layouts and the two date styles. -/
def grammarText : Text :=
  "Layout placeholders:\n" ++
  "- %c            logger name\n" ++
  "- %d\x7bFORMAT\x7d    timestamp; FORMAT is passed verbatim to the date " ++
    "formatter\n" ++
  "- %p            level name\n" ++
  "- %m            message\n" ++
  "- %%            a literal '%'\n" ++
  "\n" ++
  "Any other character after '%' is an error, as is %d without '\x7b' or a\n" ++
  "layout that ends inside a placeholder.\n" ++
  "\n" ++
  "Date styles:\n" ++
  "- strftime   %Y-%m-%d %H:%M:%S\n" ++
  "- reference  2006-01-02 15:04:05 (written as Mon Jan 2 15:04:05 MST " ++
    "2006 would look)\n"

/-- The list of the resources. -/
def helpText : Text :=
  "Resources:\n" ++ listing ++ "\nDate styles: " ++ DateStyle.choices ++ "\n"
where
  /-- The addresses, each on a line of its own. -/
  listing : Text := all.flatMap line
  /-- An address on its line. -/
  line (r : Resource) : Text := "- " ++ r.address ++ "\n"

/-- A table of levels: the names by ordinal, and what becomes of the
levels outside. -/
def levelTable (config : Config) : Value :=
  .object [
    ("levels", .list (config.levelNames.zipIdx.map fun (name, ordinal) =>
      .object [("ordinal", .int ordinal), ("name", .text name)])),
    ("unknown_level_name", .text config.unknownLevelName),
    ("strict_levels", .bool config.strictLevels)]

/-- The schema of a value of one type. -/
def typeSchema (type : Text) : Value :=
  .object [("type", .text type)]

/-- The schema of a text with a title and a description. -/
def textSchema (title description : Text) : Value :=
  .object [("description", .text description), ("title", .text title),
    ("type", .text "string")]

/-- The schema of events. -/
def eventSchemaValue : Value :=
  .object [
    ("properties", .object [
      ("logger_name", textSchema "Logger Name"
        "Logger name substituted for %c."),
      ("level", .object [
        ("anyOf", .list [typeSchema "string", typeSchema "integer"]),
        ("description",
          .text "Level name (case-insensitive) or ordinal, for %p."),
        ("title", .text "Level")]),
      ("message", textSchema "Message" "Message text substituted for %m."),
      ("timestamp", .object [
        ("anyOf", .list [
          .object [("format", .text "date-time"), ("type", .text "string")],
          typeSchema "null"]),
        ("default", .null),
        ("description", .text
          ("ISO-8601 timestamp for %d\x7b...\x7d. UTC is assumed if tz is " ++
            "missing; now if omitted.")),
        ("title", .text "Timestamp")])]),
    ("required",
      .list [.text "logger_name", .text "level", .text "message"]),
    ("title", .text "EventInput"),
    ("type", .text "object")]

/-- What is read at an address. -/
inductive Content where
  | text (t : Text)
  | value (v : Value)

/-- Why nothing is read. -/
inductive Error where
  | unknown (address : Text)
  | unreadable (r : Resource) (why : ConfigError)
  deriving DecidableEq, Repr

/-- The wording when nothing is read. -/
def Error.message : Error → Text
  | unknown address => "Unknown resource: " ++ address
  | unreadable r why =>
    "Error reading resource " ++ r.address ++ ": " ++ why.message

/-- The content of a resource. -/
def content (env : Environment) : Resource → Except ConfigError Content
  | help => .ok (.text helpText)
  | grammar => .ok (.text grammarText)
  | levels => do
    let config ← Config.resolve {} env
    return .value (levelTable config)
  | eventSchema => .ok (.value eventSchemaValue)

/-- Reads what is at an address. -/
def read (env : Environment) (address : Text) : Except Error Content :=
  match ofAddress? address with
  | none => .error (.unknown address)
  | some r => (r.content env).mapError (.unreadable r)

end Resource

end Logline
