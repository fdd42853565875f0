/-
How values are written into lines. A text displays as itself; inside a
list or an object, or when it is asked for as a literal, it is quoted. A
list stands in square brackets and an object in braces, their members
separated by a comma and a blank.
-/
import Logline.Number.Notation
import Logline.Text.Quoted
import Logline.Value

namespace Logline.Value

mutual

/-- The literal form of a value. -/
def literal : Value → Text
  | null => "None"
  | bool b => if b then "True" else "False"
  | int n => Text.ofInt n
  | double d => Number.fullText d
  | text t => Text.quoted t
  | list items => "[" ++ Text.joinWith ", " (literals items) ++ "]"
  | object fields =>
    "\x7b" ++ Text.joinWith ", " (fieldLiterals fields) ++ "\x7d"

/-- The literal forms of the members of a list. -/
def literals : List Value → List Text
  | [] => []
  | item :: rest => literal item :: literals rest

/-- The fields of an object: key, colon and value. -/
def fieldLiterals : List (Text × Value) → List Text
  | [] => []
  | (key, value) :: rest =>
    (Text.quoted key ++ ": " ++ literal value) :: fieldLiterals rest

end

/-- How a value displays. -/
def display : Value → Text
  | text t => t
  | value => literal value

/-- Values in parentheses, as the arguments of a failure are listed. A
single one keeps a comma. -/
def tupleText (items : List Value) : Text :=
  match items with
  | [item] => "(" ++ literal item ++ ",)"
  | _ => "(" ++ Text.joinWith ", " (literals items) ++ ")"

/-- The literal form in ASCII: characters outside it are escaped. -/
def asciiLiteral (value : Value) : Text :=
  (literal value).flatMap fun c =>
    if c.toNat < 0x80 then [c] else Text.codeEscape c.toNat

end Logline.Value
