/-
Values. What a caller hands over as message, argument or field is a value
of one of seven kinds: nothing, a truth value, an integer of any size, a
floating-point number, a text, a list, or an object whose keys are texts
in the order in which they came.

A truth value counts as the integer one or zero wherever an integer is
asked for.
-/
import Logline.Number.Binary64
import Logline.Text

namespace Logline

open Number

/-- A value as callers hand it over. -/
inductive Value where
  | null
  | bool (b : Bool)
  | int (n : Int)
  | double (d : Binary64)
  | text (t : Text)
  | list (items : List Value)
  | object (fields : List (Text × Value))
  deriving Repr

namespace Value

/-- The name of a value's kind in messages. -/
def kindName : Value → Text
  | null => "NoneType"
  | bool _ => "bool"
  | int _ => "int"
  | double _ => "float"
  | text _ => "str"
  | list _ => "list"
  | object _ => "dict"

/-- The integer that a value counts as. -/
def toInt? : Value → Option Int
  | bool b => some (if b then 1 else 0)
  | int n => some n
  | _ => none

/-- Does a value say anything? A zero and what is empty do not. -/
def saysAnything : Value → Bool
  | null => false
  | bool b => b
  | int n => n ≠ 0
  | double (.finite _ mantissa _) => mantissa ≠ 0
  | double _ => true
  | text t => !t.isEmpty
  | list items => !items.isEmpty
  | object fields => !fields.isEmpty

/-- The wording when values of a kind have no operation of a name. -/
def missingMessage (kindName operation : Text) : Text :=
  "'" ++ kindName ++ "' object has no attribute '" ++ operation ++ "'"

/-- The wording when a value of a kind stands where an integer is asked
for. -/
def notIntegerMessage (kindName : Text) : Text :=
  "'" ++ kindName ++ "' object cannot be interpreted as an integer"

/-- The fields of an object, each key once: at its first place, with its
last value. -/
def objectOf (fields : List (Text × Value)) : Value :=
  object (fields.foldl put [])
where
  /-- Replaces the value of a key, or adds the key at the end. -/
  put (known : List (Text × Value)) (field : Text × Value) :
      List (Text × Value) :=
    if known.any (·.1 = field.1) then
      known.map fun f => if f.1 = field.1 then (f.1, field.2) else f
    else known ++ [field]

/-- The value of a field of an object. -/
def get? (v : Value) (key : Text) : Option Value :=
  match v with
  | object fields => (fields.find? (·.1 = key)).map (·.2)
  | _ => none

end Value

end Logline
