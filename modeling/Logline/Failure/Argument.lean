/-
Arguments of failures. Most kinds of failure take any arguments. Some
take only so many, or texts and sizes in some places; theirs are counted
first and then looked at from the left, and the first that is not taken
is the error. A size is an integer of 64 bits.
-/
import Logline.Number.Power
import Logline.Value

namespace Logline.Failure

open Number

/-- How a number of arguments is bounded. -/
inductive Bound where
  | exactly
  | atLeast
  | atMost
  deriving DecidableEq, Repr

/-- A bound in words. -/
def Bound.word : Bound → Text
  | exactly => "exactly"
  | atLeast => "at least"
  | atMost => "at most"

/-- Why there is no failure of a kind with some arguments. The taker is
named where the kind does not take the arguments by itself. -/
inductive ArgumentError where
  /-- There is no kind of the name. -/
  | unknownKind (name : Text)
  /-- Another number of arguments is given than is taken. -/
  | wrongCount (taker : Option Text) (bound : Bound) (taken given : Nat)
  /-- The argument in some place is not a text. -/
  | notText (taker : Option Text) (place : Nat) (kindName : Text)
  /-- A size is not an integer. -/
  | notInteger (kindName : Text)
  /-- A size does not fit 64 bits. -/
  | sizeOutOfRange
  /-- A count does not fit 64 bits. -/
  | countOutOfRange
  /-- What is decoded does not consist of bytes. -/
  | notBytes (kindName : Text)
  /-- A place does not list its parts. -/
  | notListing (kindName : Text)
  /-- A place has an end line, but no end column. -/
  | noEndColumn
  /-- The members of a group are not listed in an order. -/
  | notSequence
  /-- A group has no members. -/
  | noMembers
  /-- The member of a group in some place is not a failure. -/
  | notFailure (place : Nat)
  deriving DecidableEq, Repr

/-- The wording when there is no failure with the arguments. -/
def ArgumentError.message : ArgumentError → Text
  | unknownKind name =>
    "module 'builtins' has no attribute '" ++ name ++ "'"
  | wrongCount taker bound taken given =>
    called taker ++ " takes " ++ bound.word ++ " " ++ Text.ofNat taken ++
      " arguments (" ++ Text.ofNat given ++ " given)"
  | notText taker place kindName =>
    let opening : Text :=
      if taker.isNone then [] else called taker ++ " "
    let noun : Text :=
      if kindName = Value.null.kindName then "None" else kindName
    opening ++ "argument " ++ Text.ofNat place ++
      " must be str, not " ++ noun
  | notInteger kindName => Value.notIntegerMessage kindName
  | sizeOutOfRange => "Python int too large to convert to C ssize_t"
  | countOutOfRange => "cannot fit 'int' into an index-sized integer"
  | notBytes kindName =>
    "a bytes-like object is required, not '" ++ kindName ++ "'"
  | notListing kindName => "'" ++ kindName ++ "' object is not iterable"
  | noEndColumn => "end_offset must be provided when end_lineno is provided"
  | notSequence => "second argument (exceptions) must be a sequence"
  | noMembers => "second argument (exceptions) must be a non-empty sequence"
  | notFailure place =>
    "Item " ++ Text.ofNat place ++
      " of second argument (exceptions) is not an exception"
where
  /-- What takes the arguments, as it is mentioned. -/
  called : Option Text → Text
    | none => "function"
    | some name => name ++ "()"

/-- Asks for a text in some place. -/
def requireText (taker : Option Text) (place : Nat) (v : Value) :
    Except ArgumentError Unit :=
  match v with
  | .text _ => .ok ()
  | _ => .error (.notText taker place v.kindName)

/-- Asks for an integer of 64 bits; `outOfRange` tells of a larger one. -/
def requireSize (outOfRange : ArgumentError) (v : Value) :
    Except ArgumentError Unit :=
  match v.toInt? with
  | none => .error (.notInteger v.kindName)
  | some n => if fitsBits 64 n then .ok () else .error outOfRange

end Logline.Failure
