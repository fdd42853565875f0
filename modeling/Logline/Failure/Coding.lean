/-
Failures of turning characters into something else: encoding them, or
translating them; and of turning bytes into characters. They tell which
characters of a text are the trouble, from one place up to another, and
why. A single character is shown by its escape. One that would have to
stand before the text is not there to be shown.

No value consists of bytes, so there is no failure of decoding.
-/
import Logline.Failure.Argument
import Logline.Value.Display

namespace Logline.Failure

open Number

/-- The kind of failures of encoding. -/
def encodeKind : Text := "UnicodeEncodeError"

/-- The kind of failures of decoding. -/
def decodeKind : Text := "UnicodeDecodeError"

/-- The kind of failures of translating. -/
def translateKind : Text := "UnicodeTranslateError"

-- =========================================================== arguments

/-- Looks at the arguments of a failure of encoding. -/
def checkEncoding (arguments : List Value) : Except ArgumentError Unit := do
  match arguments with
  | [encoding, object, start, stop, reason] =>
    requireText none 1 encoding
    requireText none 2 object
    requireSize .sizeOutOfRange start
    requireSize .sizeOutOfRange stop
    requireText none 5 reason
  | _ => throw (.wrongCount none .exactly 5 arguments.length)

/-- Looks at the arguments of a failure of decoding. -/
def checkDecoding (arguments : List Value) : Except ArgumentError Unit := do
  match arguments with
  | [encoding, object, start, stop, reason] =>
    requireText none 1 encoding
    requireSize .sizeOutOfRange start
    requireSize .sizeOutOfRange stop
    requireText none 5 reason
    throw (.notBytes object.kindName)
  | _ => throw (.wrongCount none .exactly 5 arguments.length)

/-- Looks at the arguments of a failure of translating. -/
def checkTranslating (arguments : List Value) :
    Except ArgumentError Unit := do
  match arguments with
  | [object, start, stop, reason] =>
    requireText none 1 object
    requireSize .sizeOutOfRange start
    requireSize .sizeOutOfRange stop
    requireText none 4 reason
  | _ => throw (.wrongCount none .exactly 4 arguments.length)

-- ============================================================= showing

/-- The characters that are the trouble, by their places. -/
structure Stretch where
  object : Text
  start : Int
  stop : Int
  deriving DecidableEq, Repr

namespace Stretch

/-- Is it a single character before the text? -/
def isLost (s : Stretch) : Bool :=
  s.start < 0 && s.stop = s.start + 1

/-- The code point of a single character of the text. -/
def single? (s : Stretch) : Option Nat :=
  if 0 ≤ s.start ∧ s.stop = s.start + 1 then
    (s.object[s.start.toNat]?).map Char.toNat
  else none

/-- The last place, in 64 bits. -/
def last (s : Stretch) : Int :=
  (s.stop - 1).bmod (twoTo 64)

/-- The characters as they are named: a single one by its escape, others
by the first and the last place. -/
def named (s : Stretch) : Text :=
  match s.single? with
  | some code =>
    "character '" ++ Text.codeEscape code ++ "' in position " ++
      Text.ofInt s.start
  | none =>
    "characters in position " ++ Text.ofInt s.start ++ "-" ++
      Text.ofInt s.last

end Stretch

/-- What a failure tells: what was being done, to which characters, and
why it failed. -/
structure Trouble where
  doing : Text
  stretch : Stretch
  reason : Text
  deriving DecidableEq, Repr

/-- What a failure tells, in words. -/
def Trouble.text (t : Trouble) : Text :=
  t.doing ++ t.stretch.named ++ ": " ++ t.reason

/-- What a failure of a kind tells, if it is one of encoding or of
translating. -/
def trouble? (kind : Text) (arguments : List Value) : Option Trouble :=
  match arguments with
  | [.text encoding, .text object, start, stop, .text reason] => do
    let start ← start.toInt?
    let stop ← stop.toInt?
    if kind = encodeKind then
      some ⟨"'" ++ encoding ++ "' codec can't encode ",
        ⟨object, start, stop⟩, reason⟩
    else none
  | [.text object, start, stop, .text reason] => do
    let start ← start.toInt?
    let stop ← stop.toInt?
    if kind = translateKind then
      some ⟨"can't translate ", ⟨object, start, stop⟩, reason⟩
    else none
  | _ => none

end Logline.Failure
