/-
Command line grammars. A command line is a list of words. Its grammar
has options, which are words that start with a dash, and may have one
place for other words: a single word, or a word with all that follow it.

An option is written in full, or abbreviated as long as no other option
starts the same. Its value is the next word, or stands in the same word
after an equals sign. The option that asks for help also has a short
form, and short forms may be run together. A word of two dashes ends the
options; as the value of an option it is dropped, and the option is given
with nothing. Numbers below zero and words with a blank in them are not
taken for options, and words that look like options but are none are kept
aside, like words for which there is no place.

All words are looked at first, and an ambiguous one is an error even when
help is asked for before it. Then they are taken in order, and the first
error, or the first request for help, ends the reading.

Two of these rules have changed with time, and the earlier ones are
followed. Two dashes behind an equals sign, as in `--logger=--`, are
dropped; by the later rule they are the value. What stands behind the
short form of the request for help and is no short form, as in `-hx`, is
refused as a value that the request does not take; by the later rule the
help is given.
-/
import Logline.Text.Digit
import Logline.Text.Quoted

namespace Logline.Command

/-- An option of a grammar. -/
inductive Opt where
  /-- Asks for help, in a long and in a short form. -/
  | help
  /-- Takes a value; when there are choices, one of them. -/
  | valued (name : Text) (choices : List Text)
  deriving DecidableEq, Repr

/-- The place for words that are not options. -/
inductive Place where
  | absent
  /-- One word, by the name that messages give it. -/
  | single (name : Text)
  /-- A word and all that follow it. -/
  | remaining (name : Text)
  deriving DecidableEq, Repr

/-- A grammar of command lines. -/
structure Grammar where
  options : List Opt
  place : Place

/-- The short form of the request for help. -/
def shortHelp : Text := "-h"

/-- The long form of the request for help. -/
def longHelp : Text := "--help"

/-- The word that ends the options. -/
def endOfOptions : Text := "--"

/-- The long form of an option. -/
def Opt.name : Opt → Text
  | help => longHelp
  | valued name _ => name

/-- How messages name an option. -/
def Opt.title : Opt → Text
  | help => shortHelp ++ "/" ++ longHelp
  | valued name _ => name

/-- What is wrong with a command line. -/
inductive UsageError where
  /-- An abbreviation fits several options. -/
  | ambiguous (word : Text) (names : List Text)
  /-- An option comes without its value. -/
  | missingValue (option : Opt)
  /-- A value is none of the choices. -/
  | badChoice (title value : Text) (choices : List Text)
  /-- An option has a value but takes none. -/
  | unwantedValue (option : Opt) (value : Text)
  /-- A place is empty. -/
  | missingWord (name : Text)
  /-- There are words that nothing takes. -/
  | unrecognized (words : List Text)
  deriving DecidableEq, Repr

/-- The wording of a usage error. -/
def UsageError.message : UsageError → Text
  | ambiguous word names =>
    "ambiguous option: " ++ word ++ " could match " ++
      Text.joinWith ", " names
  | missingValue option =>
    "argument " ++ option.title ++ ": expected one argument"
  | badChoice title value choices =>
    "argument " ++ title ++ ": invalid choice: " ++ Text.quoted value ++
      " (choose from " ++ Text.joinWith ", " (choices.map Text.quoted) ++ ")"
  | unwantedValue option value =>
    "argument " ++ option.title ++ ": ignored explicit argument " ++
      Text.quoted value
  | missingWord name =>
    "the following arguments are required: " ++ name
  | unrecognized words =>
    "unrecognized arguments: " ++ Text.joinWith " " words

-- ======================================================== single words

/-- What a word is taken for. -/
inductive Role where
  /-- A word for the place, or the value of an option. -/
  | plain
  /-- The end of the options. -/
  | separator
  /-- An option, with the value after its equals sign. -/
  | option (o : Opt) (value : Option Text)
  /-- The short form of the request for help, with what follows it in the
  word. -/
  | helpRun (rest : Text)
  /-- Looks like an option, but is none. -/
  | unknown
  deriving DecidableEq, Repr

/-- A word and what it is taken for. -/
structure Word where
  text : Text
  role : Role
  deriving DecidableEq, Repr

/-- The text without a line break at its end. -/
def dropLineBreak (t : Text) : Text :=
  if t.getLast? = some '\n' then t.dropLast else t

/-- A text of decimal digits, of which there is at least one. -/
def isDigits (t : Text) : Bool :=
  !t.isEmpty && t.all Text.isDecimalDigit

/-- A number below zero, with or without a fraction. -/
def isNegativeNumber (t : Text) : Bool :=
  match dropLineBreak t with
  | '-' :: rest =>
    isDigits rest ||
      match Text.cutAt '.' rest with
      | (whole, some part) => whole.all Text.isDecimalDigit && isDigits part
      | _ => false
  | _ => false

/-- A word that starts with a dash but is no option of the grammar. -/
def otherRole (word : Text) : Role :=
  if isNegativeNumber word || word.contains ' ' then .plain else .unknown

/-- What a word with two dashes in front is taken for. -/
def longRole (options : List Opt) (word : Text) : Except UsageError Role :=
  let (stem, value) := Text.cutAt '=' word
  match options.find? fun o => o.name = word with
  | some option => .ok (.option option none)
  | none =>
    match options.find? fun o => value.isSome && o.name = stem with
    | some option => .ok (.option option value)
    | none =>
      match options.filter fun o => o.name.startsWith stem with
      | [] => .ok (otherRole word)
      | [option] => .ok (.option option value)
      | several => .error (.ambiguous word (several.map Opt.name))

/-- What a word with one dash in front is taken for. -/
def shortRole (word : Text) : Role :=
  match Text.cutAt '=' word with
  | (stem, some []) =>
    if stem = shortHelp then .option .help (some []) else runRole word
  | (stem, some value) =>
    if stem = shortHelp then .helpRun value else runRole word
  | _ => runRole word
where
  /-- What it is taken for without a value. -/
  runRole (word : Text) : Role :=
    if word.startsWith shortHelp then .helpRun (word.drop shortHelp.length)
    else otherRole word

/-- What a word is taken for before the options end. -/
def roleOf (options : List Opt) (word : Text) : Except UsageError Role :=
  match word with
  | '-' :: '-' :: _ => longRole options word
  | '-' :: _ :: _ => .ok (shortRole word)
  | _ => .ok .plain

/-- What the words are taken for. -/
def classify (options : List Opt) : List Text → Except UsageError (List Word)
  | [] => .ok []
  | word :: rest =>
    if word = endOfOptions then
      .ok (⟨word, .separator⟩ :: rest.map fun w => ⟨w, .plain⟩)
    else do
      let role ← roleOf options word
      let words ← classify options rest
      return ⟨word, role⟩ :: words

-- ====================================================== the whole line

/-- What a command line says. -/
structure Reading where
  /-- The values of the options, the last one first. An option may be
  given with nothing. -/
  values : List (Text × Option Text) := []
  /-- The words in the place. -/
  placed : Option (List Text) := none
  /-- The words that nothing takes. -/
  aside : List Text := []
  deriving DecidableEq, Repr

/-- Why a command line is not read to its end. -/
inductive Stop where
  /-- Help is asked for. -/
  | help
  | usage (why : UsageError)
  deriving DecidableEq, Repr

/-- What comes of the characters that follow the short form of the
request for help in its word: the short form may be repeated, and what is
left then would be its value. -/
def helpRunStop : Text → Stop
  | [] => .help
  | 'h' :: rest => helpRunStop rest
  | value => .usage (.unwantedValue .help value)

/-- What the next word is for. -/
inductive Turn where
  /-- Whatever it is taken for. -/
  | free
  /-- The value of an option. -/
  | value (o : Opt)
  /-- It stands beside the single word of the place. -/
  | beside
  /-- It goes with the word that began the place. -/
  | gathered
  deriving DecidableEq, Repr

/-- A point of reading a command line. -/
structure Progress where
  reading : Reading := {}
  /-- The place as far as it is still to be filled. -/
  place : Place
  turn : Turn := .free
  deriving DecidableEq, Repr

namespace Progress

/-- Keeps what an option is given with. -/
def keep (p : Progress) (name : Text) (value : Option Text) : Progress :=
  { p with
    reading.values := (name, value) :: p.reading.values
    turn := .free }

/-- Gives an option its value. Two dashes are dropped before the choices
are looked at. -/
def give (p : Progress) (o : Opt) (value : Text) : Except Stop Progress :=
  match o with
  | .help => .error (.usage (.unwantedValue .help value))
  | .valued name choices =>
    if value = endOfOptions then .ok (p.keep name none)
    else if choices ≠ [] ∧ value ∉ choices then
      .error (.usage (.badChoice o.title value choices))
    else .ok (p.keep name (some value))

/-- Keeps a word aside. -/
def setAside (p : Progress) (word : Text) : Progress :=
  { p with
    reading.aside := p.reading.aside ++ [word]
    turn := .free }

/-- Adds a word to the place. -/
def put (p : Progress) (word : Text) (place : Place) (turn : Turn) :
    Progress :=
  let placed := p.reading.placed.getD [] ++ [word]
  { reading := { p.reading with placed := some placed }
    place := place
    turn := turn }

/-- Takes a word for what it is, the turn left aside. The end of the
options counts among the words that follow one another in the place, but
goes unnoticed beside a single word. -/
def take (p : Progress) (word : Word) : Except Stop Progress :=
  match word.role with
  | .unknown => .ok (p.setAside word.text)
  | .helpRun more => .error (helpRunStop more)
  | .option .help none => .error .help
  | .option o (some value) => p.give o value
  | .option o none => .ok { p with turn := .value o }
  | .plain =>
    match p.place with
    | .absent => .ok (p.setAside word.text)
    | .single _ => .ok (p.put word.text .absent .beside)
    | .remaining _ => .ok (p.put word.text .absent .gathered)
  | .separator =>
    match p.place with
    | .absent => .ok (p.setAside word.text)
    | .single name => .ok { p with place := .single name, turn := .free }
    | .remaining name => .ok (p.put word.text (.remaining name) .free)

/-- Takes the next word. -/
def step (p : Progress) (word : Word) : Except Stop Progress :=
  match p.turn, word.role with
  | .value o, .plain => p.give o word.text
  | .value o, _ => .error (.usage (.missingValue o))
  | .beside, .separator => .ok { p with turn := .free }
  | .gathered, _ => .ok (p.put word.text p.place .gathered)
  | _, _ => p.take word

/-- Ends the reading: no value and no place may be missing. -/
def finish (p : Progress) : Except Stop Reading :=
  match p.turn, p.place with
  | .value o, _ => .error (.usage (.missingValue o))
  | _, .absent => .ok p.reading
  | _, .single name | _, .remaining name =>
    .error (.usage (.missingWord name))

end Progress

/-- Reads a command line by a grammar. -/
def Grammar.read (g : Grammar) (words : List Text) : Except Stop Reading := do
  let words ← (classify g.options words).mapError .usage
  let last ← words.foldlM Progress.step ⟨{}, g.place, .free⟩
  last.finish

/-- What an option is given with, if it is given. -/
def Reading.value? (r : Reading) (name : Text) : Option (Option Text) :=
  r.values.lookup name

end Logline.Command
