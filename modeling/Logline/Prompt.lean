/-
The prompt. It asks a language model to write a layout for lines like a
given one. There are two messages: one tells what layouts are, the other
gives the line and the date style.

A client that asks for the prompt by name never gets it: the messages of
a prompt may come from the user and from the assistant only, and the
first one comes from neither.
-/
import Logline.Request
import Logline.Resource
import Logline.Value.Display

namespace Logline.Prompt

/-- A message of the prompt: whose it is, and what it says. -/
structure Message where
  role : Text
  content : Text
  deriving DecidableEq, Repr

/-- What layouts are, and what to do. -/
def instructions : Message where
  role := "system"
  content :=
    "You write log layout strings. Reply with a single layout that " ++
      "reproduces the example line's structure, then verify it with the " ++
      "compile_layout and render_layout tools.\n\n" ++ Resource.grammarText

/-- The example and the date style, as they display. -/
def question (exampleLine dateStyle : Value) : Message where
  role := "user"
  content :=
    "Date style: " ++ dateStyle.display ++
      "\nWrite a layout for lines that look like this:\n" ++
      exampleLine.display

/-- The date style that is asked for unless another is given. -/
def defaultStyle : Value := .text Calendar.DateStyle.directives.name

/-- The messages of the prompt. -/
def messages (exampleLine dateStyle : Value) : List Message :=
  [instructions, question exampleLine dateStyle]

/-- The argument that must be given. -/
def requiredArgument : Text := "example_line"

/-- The argument that may be given. -/
def optionalArgument : Text := "date_style"

-- ================================================= asking in an order

/-- What makes the messages. -/
def maker : Text := "design_layout_messages"

/-- Why there are no messages. -/
inductive CountError where
  | missingExample
  /-- More than the example and the date style is given. -/
  | tooMany (given : Nat)
  deriving DecidableEq, Repr

/-- The wording when there are no messages. -/
def CountError.message : CountError → Text
  | missingExample =>
    maker ++ "() missing 1 required positional argument: " ++
      Text.quoted requiredArgument
  | tooMany given =>
    maker ++ "() takes from 1 to 2 positional arguments but " ++
      Text.ofNat given ++ " were given"

/-- The messages for an example and a date style in this order. -/
def ofList (given : List Value) : Except CountError (List Message) :=
  match given with
  | [] => .error .missingExample
  | [exampleLine] => .ok (messages exampleLine defaultStyle)
  | [exampleLine, dateStyle] => .ok (messages exampleLine dateStyle)
  | _ => .error (.tooMany given.length)

-- ==================================================== asking by name

/-- The name of the prompt. -/
def name : Text := "design_layout"

/-- The name that faults of the arguments are counted on. -/
def argumentsName : Text := "register_prompts.<locals>." ++ name

/-- Why a client does not get the prompt. -/
inductive Error where
  /-- The example is missing. -/
  | missingExample
  /-- So many arguments are at fault. -/
  | badArguments (count : Nat)
  /-- A message comes from nobody who may say something. -/
  | badMessage (m : Message)
  deriving DecidableEq, Repr

/-- A message as a value. -/
def Message.toValue (m : Message) : Value :=
  .object [("role", .text m.role), ("content", .text m.content)]

/-- The wording when a client does not get the prompt. -/
def Error.message : Error → Text
  | missingExample =>
    "Missing required arguments: \x7b" ++ Text.quoted requiredArgument ++
      "\x7d"
  | badArguments count => opening ++ faultCountMessage count argumentsName
  | badMessage m =>
    opening ++ "Could not convert prompt result to message: " ++
      m.toValue.literal
where
  /-- What comes before the cause. -/
  opening : Text := "Error rendering prompt " ++ name ++ ": "

/-- The number of faults of an argument: one that is not a text, or that
the prompt does not have. -/
def faultCount (argument : Text × Value) : Nat :=
  match argument with
  | (key, .text _) =>
    if key = requiredArgument ∨ key = optionalArgument then 0 else 1
  | _ => 1

/-- The number of faults of all arguments. -/
def faultTotal : List (Text × Value) → Nat
  | [] => 0
  | argument :: rest => faultCount argument + faultTotal rest

/-- May a message come from there? -/
def maySpeak (role : Text) : Bool :=
  role = ("user" : Text) || role = ("assistant" : Text)

/-- What a client is told that asks for the prompt. -/
def ask (arguments : List (Text × Value)) : Except Error (List Message) :=
  match arguments.lookup requiredArgument with
  | none => .error .missingExample
  | some shown =>
    let count := faultTotal arguments
    if count ≠ 0 then .error (.badArguments count)
    else
      let made := messages shown
        ((arguments.lookup optionalArgument).getD defaultStyle)
      match made.find? fun m => !maySpeak m.role with
      | some m => .error (.badMessage m)
      | none => .ok made

end Logline.Prompt
