/-
Values as JSON text, read and written. A number without fraction and
exponent is an integer of any size, any other number a floating-point
number. The three words for infinity and for no number are read as well.
Blanks around the value are skipped; anything else after it makes the
text unreadable. Integers may not have too many digits, and lists and
objects may not lie deeper inside one another than is asked for;
whichever the reader comes to first is the error.

The readers return the rest of the text. They are bounded by a number of
steps, for which the length of the text is always enough: every value
takes at least one character.

Written texts keep every character that need not be escaped, and members
stand in their order.
-/
import Logline.Number.Notation
import Logline.Number.Numeral
import Logline.Text.Quoted
import Logline.Value

namespace Logline.Value

open Number

/-- Why a text is not read. -/
inductive JsonError where
  /-- The text is not JSON. -/
  | malformed
  /-- An integer has so many digits, which are too many. -/
  | longNumeral (digits : Nat)
  /-- A list, or else an object, lies too deep inside others. -/
  | tooDeep (isList : Bool)
  deriving DecidableEq, Repr

/-- The wording of a text that is not read for its size. -/
def JsonError.message : JsonError → Text
  | malformed => "Invalid JSON"
  | longNumeral digits => longNumeralMessage digits
  | tooDeep isList =>
    "maximum recursion depth exceeded while decoding a JSON " ++
      (if isList then "array" else "object") ++ " from a unicode string"

/-- A blank between the parts of a JSON text. -/
def isJsonBlank (c : Char) : Bool :=
  c = ' ' || c = '\t' || c = '\n' || c = '\r'

/-- The text without blanks in front. -/
def skipBlanks (t : Text) : Text :=
  t.dropWhile isJsonBlank

/-- The value of a hexadecimal digit. -/
def hexValue? (c : Char) : Option Nat :=
  if c.isDigit then some (c.toNat - 48)
  else if 'a' ≤ c && c ≤ 'f' then some (c.toNat - 87)
  else if 'A' ≤ c && c ≤ 'F' then some (c.toNat - 55)
  else none

/-- Four hexadecimal digits and the rest. -/
def readUnit : Text → Option (Nat × Text)
  | a :: b :: c :: d :: rest => do
    let a ← hexValue? a
    let b ← hexValue? b
    let c ← hexValue? c
    let d ← hexValue? d
    return (((a * 16 + b) * 16 + c) * 16 + d, rest)
  | _ => none

/-- The character of a code unit; two units that belong together make one
character. -/
def readUnicode (t : Text) : Option (Char × Text) := do
  let (high, rest) ← readUnit t
  if 0xD800 ≤ high ∧ high < 0xDC00 then
    match rest with
    | '\\' :: 'u' :: after =>
      let (low, rest') ← readUnit after
      if 0xDC00 ≤ low ∧ low < 0xE000 then
        return (Char.ofNat
          (0x10000 + (high - 0xD800) * 0x400 + (low - 0xDC00)), rest')
      else return (Char.ofNat 0xFFFD, rest)
    | _ => return (Char.ofNat 0xFFFD, rest)
  else if 0xDC00 ≤ high ∧ high < 0xE000 then
    return (Char.ofNat 0xFFFD, rest)
  else return (Char.ofNat high, rest)

/-- The character of an escape, after its backslash. -/
def readEscape : Text → Option (Char × Text)
  | 'u' :: rest => readUnicode rest
  | c :: rest =>
    match c with
    | '"' => some (c, rest)
    | '\\' => some (c, rest)
    | '/' => some (c, rest)
    | 'b' => some ('\x08', rest)
    | 'f' => some ('\x0c', rest)
    | 'n' => some ('\n', rest)
    | 'r' => some ('\r', rest)
    | 't' => some ('\t', rest)
    | _ => none
  | [] => none

/-- The characters of a quoted text after its opening quote; `before`
holds those already read, the last first. -/
def readQuoted : Nat → Text → Text → Option (Text × Text)
  | 0, _, _ => none
  | steps + 1, before, t =>
    match t with
    | [] => none
    | '"' :: rest => some (before.reverse, rest)
    | '\\' :: rest =>
      match readEscape rest with
      | some (c, rest') => readQuoted steps (c :: before) rest'
      | none => none
    | c :: rest =>
      if c.toNat < 0x20 then none else readQuoted steps (c :: before) rest

/-- The digits that a text starts with, and the rest. -/
def takeDigits (t : Text) : Text × Text :=
  t.span Char.isDigit

/-- The fraction of a number: its digits, when there are some. -/
def readFraction (t : Text) : Text × Text :=
  match t with
  | '.' :: rest =>
    match takeDigits rest with
    | ([], _) => ([], t)
    | (digits, rest') => (digits, rest')
  | _ => ([], t)

/-- The exponent of a number, when there is one. -/
def readExponent (t : Text) : Option Int × Text :=
  match t with
  | c :: rest =>
    if c = 'e' || c = 'E' then
      let (negative, digits) : Bool × Text :=
        match rest with
        | '-' :: r => (true, r)
        | '+' :: r => (false, r)
        | r => (false, r)
      match takeDigits digits with
      | ([], _) => (none, t)
      | (digits, rest') =>
        let size : Int := Text.toNat digits
        (some (if negative then -size else size), rest')
    else (none, t)
  | [] => (none, t)

/-- A number, its sign read. After a leading zero there are no more
digits before the point. -/
def readNumber (negative : Bool) (t : Text) :
    Except JsonError (Value × Text) :=
  match takeDigits t with
  | ([], _) => .error .malformed
  | (digits, rest) =>
    let (digits, rest) : Text × Text :=
      if digits.head? = some '0' then (['0'], t.drop 1) else (digits, rest)
    let (fraction, rest) := readFraction rest
    let (exponent, rest) := readExponent rest
    if fraction = [] ∧ exponent = none then
      match ofNumeral negative digits with
      | .ok n => .ok (int n, rest)
      | .error count => .error (.longNumeral count)
    else
      .ok (double (Binary64.ofDecimal negative
        (Text.toNat (digits ++ fraction))
        (exponent.getD 0 - fraction.length)), rest)

/-- The values that are words, with the words. -/
def jsonWords : List (Text × Value) := [
  ("null", null),
  ("true", bool true),
  ("false", bool false),
  ("NaN", double .nan),
  ("Infinity", double (.infinite false)),
  ("-Infinity", double (.infinite true))]

/-- A word or a number. -/
def readScalar (t : Text) : Except JsonError (Value × Text) :=
  match jsonWords.find? fun entry => t.startsWith entry.1 with
  | some (word, value) => .ok (value, t.drop word.length)
  | none =>
    match t with
    | '-' :: rest => readNumber true rest
    | _ => readNumber false t

/-- A quoted text after its opening quote. -/
def readText (t : Text) : Except JsonError (Text × Text) :=
  match readQuoted (t.length + 1) [] t with
  | some found => .ok found
  | none => .error .malformed

mutual

/-- One value, blanks in front skipped; `depth` counts how many lists and
objects may still be opened. -/
def readValue : Nat → Nat → Text → Except JsonError (Value × Text)
  | 0, _, _ => .error .malformed
  | steps + 1, depth, t =>
    match skipBlanks t with
    | '"' :: rest => do
      let (s, rest) ← readText rest
      return (text s, rest)
    | '[' :: rest =>
      match depth with
      | 0 => .error (.tooDeep true)
      | depth + 1 =>
        match skipBlanks rest with
        | ']' :: rest => .ok (list [], rest)
        | rest => readItems steps depth [] rest
    | '\x7b' :: rest =>
      match depth with
      | 0 => .error (.tooDeep false)
      | depth + 1 =>
        match skipBlanks rest with
        | '\x7d' :: rest => .ok (object [], rest)
        | rest => readFields steps depth [] rest
    | t => readScalar t

/-- The members of a list, at least one, and its end; the last read comes
first in `before`. -/
def readItems : Nat → Nat → List Value → Text →
    Except JsonError (Value × Text)
  | 0, _, _, _ => .error .malformed
  | steps + 1, depth, before, t => do
    let (item, rest) ← readValue steps depth t
    match skipBlanks rest with
    | ',' :: rest => readItems steps depth (item :: before) rest
    | ']' :: rest => return (list (item :: before).reverse, rest)
    | _ => .error .malformed

/-- The fields of an object, at least one, and its end; the last read
comes first in `before`. -/
def readFields : Nat → Nat → List (Text × Value) → Text →
    Except JsonError (Value × Text)
  | 0, _, _, _ => .error .malformed
  | steps + 1, depth, before, t =>
    match skipBlanks t with
    | '"' :: rest => do
      let (key, rest) ← readText rest
      match skipBlanks rest with
      | ':' :: rest =>
        let (value, rest) ← readValue steps depth rest
        match skipBlanks rest with
        | ',' :: rest => readFields steps depth ((key, value) :: before) rest
        | '\x7d' :: rest =>
          return (objectOf ((key, value) :: before).reverse, rest)
        | _ => .error .malformed
      | _ => .error .malformed
    | _ => .error .malformed

end

/-- The value that a JSON text denotes, with so many lists and objects
inside one another at most. -/
def ofJson (depth : Nat) (t : Text) : Except JsonError Value := do
  let (value, rest) ← readValue (2 * t.length + 2) depth t
  if skipBlanks rest = [] then return value else throw .malformed

-- ============================================================= writing

/-- How one character stands inside a JSON text. -/
def jsonEscaped (c : Char) : Text :=
  if c = '"' || c = '\\' then ['\\', c]
  else if c = '\n' then "\\n"
  else if c = '\r' then "\\r"
  else if c = '\t' then "\\t"
  else if c.toNat < 0x20 then "\\u" ++ Text.hexPadded 4 c.toNat
  else [c]

/-- A text in double quotes. -/
def jsonQuoted (t : Text) : Text :=
  '"' :: t.flatMap jsonEscaped ++ ['"']

/-- A floating-point number; the ones that are not finite have words. -/
def jsonDouble : Binary64 → Text
  | .infinite negative => if negative then "-Infinity" else "Infinity"
  | .nan => "NaN"
  | d => fullText d

mutual

/-- The JSON text of a value. -/
def toJson : Value → Text
  | null => "null"
  | bool b => if b then "true" else "false"
  | int n => Text.ofInt n
  | double d => jsonDouble d
  | text t => jsonQuoted t
  | list items => "[" ++ Text.joinWith ", " (itemsToJson items) ++ "]"
  | object fields =>
    "\x7b" ++ Text.joinWith ", " (fieldsToJson fields) ++ "\x7d"

/-- The JSON texts of the members of a list. -/
def itemsToJson : List Value → List Text
  | [] => []
  | item :: rest => toJson item :: itemsToJson rest

/-- The JSON texts of the fields of an object. -/
def fieldsToJson : List (Text × Value) → List Text
  | [] => []
  | (key, value) :: rest =>
    (jsonQuoted key ++ ": " ++ toJson value) :: fieldsToJson rest

end

end Logline.Value
