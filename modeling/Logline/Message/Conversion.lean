/-
Conversions. The letter of a field says how an argument is shown in it:
as text, as an integer in one of three bases, as a floating-point number
in one of three notations, or as a single character. What is shown is
then fitted into the width of the field.

A number is filled with zeros between its sign and its digits, all else
with blanks, and whatever stands on the left of its field is filled with
blanks on the right.
-/
import Logline.Message.Pattern
import Logline.Text.Run
import Logline.Value.Display

namespace Logline.Message

open Number

/-- Why a message cannot be filled in. -/
inductive MessageError where
  /-- The pattern breaks off in a field. -/
  | incompleteField
  /-- The name of an argument has no end. -/
  | incompleteKey
  /-- A width in the pattern is too large. -/
  | widthTooLarge
  /-- A precision in the pattern is too large. -/
  | precisionTooLarge
  /-- There is no conversion with the letter at the place. -/
  | unknownLetter (letter : Char) (place : Nat)
  /-- A field asks for a name, but the arguments have none. -/
  | namesRequired
  /-- No argument has the name. -/
  | missingName (name : Text)
  | tooFewArguments
  | tooManyArguments
  /-- A star stands for an argument that is not an integer. -/
  | amountNotInteger
  /-- A star in place of a width stands for too large an integer. -/
  | widthOutOfRange
  /-- A star in place of a precision stands for too large an integer. -/
  | precisionOutOfRange
  /-- An integer would have too many digits. -/
  | digitsOutOfRange
  /-- The argument of a decimal integer is not a number. -/
  | notNumber (letter : Char) (kindName : Text)
  /-- The argument of an integer in another base is not an integer. -/
  | notInteger (letter : Char) (kindName : Text)
  /-- The argument of a floating-point number is not a number. -/
  | notReal (kindName : Text)
  /-- The argument is neither a character nor its number. -/
  | notCharacter
  /-- No character has the number. -/
  | characterOutOfRange
  /-- An infinite number has no integer. -/
  | infiniteInteger
  /-- What is no number has no integer. -/
  | nanInteger
  /-- No floating-point number is as large as the integer. -/
  | integerTooLarge
  /-- The field does not fit into memory. -/
  | fieldTooWide
  deriving DecidableEq, Repr

/-- How a letter is named where it is refused. -/
def letterName (letter : Char) : Char :=
  if 31 ≤ letter.toNat ∧ letter.toNat ≤ 126 then letter else '?'

/-- The wording of a message that cannot be filled in. -/
def MessageError.message : MessageError → Text
  | incompleteField => "incomplete format"
  | incompleteKey => "incomplete format key"
  | widthTooLarge => "width too big"
  | precisionTooLarge => "precision too big"
  | unknownLetter letter place =>
    "unsupported format character '" ++ [letterName letter] ++ "' (0x" ++
      Text.hexPadded 1 letter.toNat ++ ") at index " ++ Text.ofNat place
  | namesRequired => "format requires a mapping"
  | missingName name => Text.quoted name
  | tooFewArguments => "not enough arguments for format string"
  | tooManyArguments =>
    "not all arguments converted during string formatting"
  | amountNotInteger => "* wants int"
  | widthOutOfRange => "Python int too large to convert to C ssize_t"
  | precisionOutOfRange => "Python int too large to convert to C int"
  | digitsOutOfRange => "precision too large"
  | notNumber letter kindName =>
    "%" ++ [letter] ++ " format: a real number is required, not " ++ kindName
  | notInteger letter kindName =>
    "%" ++ [letter] ++ " format: an integer is required, not " ++ kindName
  | notReal kindName => "must be real number, not " ++ kindName
  | notCharacter => "%c requires int or char"
  | characterOutOfRange => "%c arg not in range(0x110000)"
  | infiniteInteger => "cannot convert float infinity to integer"
  | nanInteger => "cannot convert float NaN to integer"
  | integerTooLarge => "int too large to convert to float"
  | fieldTooWide => []

/-- What a conversion shows, before it is fitted into its field. -/
structure Shown where
  isNumber : Bool
  negative : Bool := false
  /-- The mark of the base. -/
  mark : Text := []
  body : List Run

/-- The sign in front of a number. -/
def signText (flags : Flags) (shown : Shown) : Text :=
  if !shown.isNumber then []
  else if shown.negative then ['-']
  else if flags.plus then ['+']
  else if flags.blank then [' ']
  else []

/-- Fits what is shown into a field. -/
def fitted (flags : Flags) (width : Nat) (shown : Shown) : List Run :=
  let front : Run := .text (signText flags shown ++ shown.mark)
  let room := width - (front.length + Run.totalLength shown.body)
  if flags.left then front :: shown.body ++ [.copies ' ' room]
  else if flags.zeros && shown.isNumber then
    front :: .copies '0' room :: shown.body
  else .copies ' ' room :: front :: shown.body

-- ================================================================ texts

/-- A text, cut off at the precision. -/
def textShown (precision : Option Nat) (t : Text) : Shown where
  isNumber := false
  body := [.text (t.take (precision.getD t.length))]

/-- A single character, given as it is or by its number. -/
def characterShown (value : Value) : Except MessageError Shown :=
  match value with
  | .text [c] => .ok ⟨false, false, [], [.text [c]]⟩
  | _ =>
    match value.toInt? with
    | some n =>
      if 0 ≤ n ∧ n < 0x110000 then
        .ok ⟨false, false, [], [.text [Char.ofNat n.toNat]]⟩
      else .error .characterOutOfRange
    | none => .error .notCharacter

-- ============================================================= integers

/-- The largest precision of an integer. -/
def largestPrecision : Nat := twoTo 31 - 4

/-- An integer in a base, with at least so many digits as the precision
says. -/
def integerShown (base : Nat) (mark : Text) (precision : Option Nat)
    (n : Int) : Except MessageError Shown :=
  let least := precision.getD 0
  if largestPrecision < least then .error .digitsOutOfRange
  else
    let digits := Nat.toDigits base n.natAbs
    .ok ⟨true, decide (n < 0), mark,
      [.copies '0' (least - digits.length), .text digits]⟩

/-- The integer that a number counts as: what is after the point is
dropped. -/
def truncated (letter : Char) (value : Value) : Except MessageError Int :=
  match value with
  | .double .nan => .error .nanInteger
  | .double d =>
    match d.toFraction? with
    | some f => .ok f.truncate
    | none => .error .infiniteInteger
  | _ =>
    match value.toInt? with
    | some n => .ok n
    | none => .error (.notNumber letter value.kindName)

/-- The integer that a value is. -/
def integer (letter : Char) (value : Value) : Except MessageError Int :=
  match value.toInt? with
  | some n => .ok n
  | none => .error (.notInteger letter value.kindName)

/-- What is shown, in upper case. -/
def upperShown (shown : Shown) : Shown :=
  { shown with
    mark := shown.mark.map Char.toUpper
    body := shown.body.map (Run.map Char.toUpper) }

-- ============================================== floating-point numbers

/-- The floating-point number that a value counts as. -/
def real (value : Value) : Except MessageError Binary64 :=
  match value with
  | .double d => .ok d
  | _ =>
    match value.toInt? with
    | none => .error (.notReal value.kindName)
    | some n =>
      match Binary64.ofInt n with
      | .finite negative mantissa exponent =>
        .ok (.finite negative mantissa exponent)
      | _ => .error .integerTooLarge

/-- A notation of positive fractions: numerator, denominator, precision,
and whether it is the alternate form. -/
structure RealNotation where
  text : Nat → Nat → Nat → Bool → Text
  /-- Is one more digit shown than the precision says? -/
  addsDigit : Bool
  /-- Are zeros at the end written in the form that is not alternate? -/
  keepsZeros : Bool

/-- The notation with a point. -/
def fixedNotation : RealNotation := ⟨fixedText, false, true⟩

/-- The notation with a power of ten. -/
def scientificNotation : RealNotation := ⟨scientificText, true, true⟩

/-- The notation that chooses between the two. -/
def generalNotation : RealNotation := ⟨generalText, false, false⟩

/-- A precision at which every floating-point number is exact: it has
fewer digits, and fewer places. -/
def exactPrecision : Nat := 1100

/-- The precision that a notation goes by. The digits are counted in 32
bits, and where there would be more, a single one is shown. -/
def RealNotation.precision (form : RealNotation) (precision : Nat) : Nat :=
  if form.addsDigit && !fitsBits 32 (precision + 1) then 0 else precision

/-- A positive fraction in a notation. Beyond the precision at which it is
exact there are only zeros, which stand before the power of ten. -/
def realBody (form : RealNotation) (alternate : Bool)
    (precision : Nat) (f : Fraction) : List Run :=
  let precision := form.precision precision
  let places := min precision exactPrecision
  let shown := form.text f.num.natAbs f.den places alternate
  let zeros :=
    if form.keepsZeros || alternate then precision - places else 0
  [.text (shown.takeWhile (· != 'e')), .copies '0' zeros,
    .text (shown.dropWhile (· != 'e'))]

/-- A floating-point number in a notation; the precision is six unless it
is given. -/
def realShown (form : RealNotation) (alternate : Bool)
    (precision : Option Nat) (d : Binary64) : Shown :=
  match d.toFraction? with
  | some f =>
    ⟨true, d.isNegative, [],
      realBody form alternate (precision.getD 6) f⟩
  | none =>
    let word : Text := if d = .nan then "nan" else "inf"
    ⟨true, d.isNegative, [], [.text word]⟩

-- ========================================================== conversions

/-- What an argument shows under a conversion. -/
def converted (letter : Char) (place : Nat) (alternate : Bool)
    (precision : Option Nat) (value : Value) : Except MessageError Shown :=
  let mark (t : Text) : Text := if alternate then t else []
  match letter with
  | 's' => .ok (textShown precision value.display)
  | 'r' => .ok (textShown precision value.literal)
  | 'a' => .ok (textShown precision value.asciiLiteral)
  | 'd' | 'i' | 'u' => do
    integerShown 10 [] precision (← truncated letter value)
  | 'o' => do integerShown 8 (mark "0o") precision (← integer letter value)
  | 'x' => do integerShown 16 (mark "0x") precision (← integer letter value)
  | 'X' => do
    let shown ←
      integerShown 16 (mark "0x") precision (← integer letter value)
    return upperShown shown
  | 'e' => do
    return realShown scientificNotation alternate precision (← real value)
  | 'E' => do
    return upperShown
      (realShown scientificNotation alternate precision (← real value))
  | 'f' => do
    return realShown fixedNotation alternate precision (← real value)
  | 'F' => do
    return upperShown
      (realShown fixedNotation alternate precision (← real value))
  | 'g' => do
    return realShown generalNotation alternate precision (← real value)
  | 'G' => do
    return upperShown
      (realShown generalNotation alternate precision (← real value))
  | 'c' => characterShown value
  | _ => .error (.unknownLetter letter place)

end Logline.Message
