/-
Messages. A message and its arguments make a text. Without arguments it
is what the message displays as, and percent signs in it mean nothing.
With arguments it is a pattern whose fields are filled from the left: by
the arguments in their order, or by name from the fields of an object.

Every argument in an order must be used. An object need not be: its
fields are used where a name asks for them, and a field without a name
shows the whole object, once.
-/
import Logline.Message.Conversion

namespace Logline

open Message Number

/-- The arguments of a message. -/
inductive Arguments where
  | ordered (values : List Value)
  | named (fields : List (Text × Value))

namespace Arguments

/-- The arguments as they are handed over: a single object that is not
empty names them. -/
def ofValues (values : List Value) : Arguments :=
  match values with
  | [.object (field :: fields)] => named (field :: fields)
  | _ => ordered values

/-- Are there none? -/
def isEmpty : Arguments → Bool
  | ordered values => values.isEmpty
  | named fields => fields.isEmpty

end Arguments

namespace Message

/-- Where the values of the fields come from while a pattern is filled:
the arguments that are left, or the fields of an object with the value
that is up next. -/
inductive Source where
  | ordered (left : List Value)
  | named (fields : List (Text × Value)) (next : Option Value)

namespace Source

/-- The source before the first field. -/
def ofArguments : Arguments → Source
  | .ordered values => ordered values
  | .named fields => named fields (some (.object fields))

/-- Takes the next value. -/
def take : Source → Except MessageError (Value × Source)
  | ordered (value :: left) => .ok (value, ordered left)
  | named fields (some value) => .ok (value, named fields none)
  | _ => .error .tooFewArguments

/-- Turns to the value that a key asks for. -/
def select (key : Key) (source : Source) : Except MessageError Source :=
  match key, source with
  | .absent, _ => .ok source
  | _, ordered _ => .error .namesRequired
  | .unclosed, named _ _ => .error .incompleteKey
  | .named name, named fields _ =>
    match (Value.object fields).get? name with
    | some value => .ok (named fields (some value))
    | none => .error (.missingName name)

/-- Is a value left that has to be used? -/
def isUsed : Source → Bool
  | ordered left => left.isEmpty
  | named _ _ => true

end Source

/-- The largest width. -/
def largestWidth : Nat := twoTo 63 - 1

/-- The largest precision in a pattern. -/
def largestAmount : Nat := twoTo 31 - 1

/-- The integer that stands in for a star. -/
def takeAmount (source : Source) : Except MessageError (Int × Source) := do
  let (value, source) ← source.take
  match value.toInt? with
  | some n => return (n, source)
  | none => throw .amountNotInteger

/-- The distance of a width from zero, in 64 bits: the least width, which
has no opposite there, counts as none. -/
def widthSize (n : Int) : Nat :=
  if fitsBits 64 (-n) then n.natAbs else 0

/-- The width of a field; a negative one moves the text to the left. -/
def takeWidth (field : Field) (source : Source) :
    Except MessageError (Flags × Nat × Source) := do
  match field.width with
  | .absent => return (field.flags, 0, source)
  | .given n =>
    if largestWidth < n then throw .widthTooLarge
    return (field.flags, n, source)
  | .taken =>
    let (n, source) ← takeAmount source
    if !fitsBits 64 n then throw .widthOutOfRange
    let flags := { field.flags with left := field.flags.left || n < 0 }
    return (flags, widthSize n, source)

/-- The precision of a field; a negative one is zero. -/
def takePrecision (field : Field) (source : Source) :
    Except MessageError (Option Nat × Source) := do
  match field.precision with
  | .absent => return (none, source)
  | .given n =>
    if largestAmount < n then throw .precisionTooLarge
    return (some n, source)
  | .taken =>
    let (n, source) ← takeAmount source
    if !fitsBits 32 n then throw .precisionOutOfRange
    return (some n.toNat, source)

/-- Fills one field. -/
def fillField (field : Field) (source : Source) :
    Except MessageError (List Run × Source) := do
  let source ← source.select field.key
  let (flags, width, source) ← takeWidth field source
  let (precision, source) ← takePrecision field source
  match field.letter with
  | none => throw .incompleteField
  | some letter =>
    let (value, source) ← source.take
    let shown ← converted letter field.place flags.alternate precision value
    if Run.mostCopies < width then throw .fieldTooWide
    return (fitted flags width shown, source)

/-- Fills the fields of the parts one after another. -/
def fillItems (source : Source) : List Item → Except MessageError (List Run)
  | [] => if source.isUsed then .ok [] else .error .tooManyArguments
  | .literal c :: rest => do
    let after ← fillItems source rest
    return .copies c 1 :: after
  | .field f :: rest => do
    let (filled, source) ← fillField f source
    let after ← fillItems source rest
    return filled ++ after

/-- The text of a message with its arguments. It is written out only when
every field has been filled. -/
def text (message : Value) (arguments : Arguments) :
    Except MessageError Text :=
  if arguments.isEmpty then .ok message.display
  else do
    let runs ← fillItems (Source.ofArguments arguments)
      (items message.display)
    if Run.mostWritten < Run.totalLength runs then throw .fieldTooWide
    return Run.expandAll runs

end Message

end Logline
