/-
Notations of numbers. A decimal is written with a point in its place, or
with one digit before the point and a power of ten. A fraction can be
rounded to some places after the point, or to some digits, and then be
written either way.
-/
import Logline.Number.Shortest
import Logline.Text

namespace Logline.Number

/-- Digits with the point after the first `point` of them; zeros fill the
gap between digits and point, and at least one digit stands before the
point. Nothing stands after it unless there are digits. -/
def positional (digits : Text) (point : Int) : Text × Text :=
  if point ≤ 0 then
    ("0", List.replicate (-point).toNat '0' ++ digits)
  else
    let count := point.toNat
    ((digits.take count) ++ List.replicate (count - digits.length) '0',
     digits.drop count)

/-- An exponent with its sign, in two digits or more. -/
def exponentText (exponent : Int) : Text :=
  (if exponent < 0 then '-' else '+') :: Text.zeroPadded 2 exponent.natAbs

/-- How a floating-point number is written in full. -/
structure FullNotation where
  /-- The least number of digits before the point that is written with
  zeros after the point, not with a power of ten; exclusive. -/
  smallPoint : Int
  /-- The greatest number of digits before the point, inclusive. -/
  largePoint : Int

/-- Numbers from 0.0001 on and below 10^16 are written with a point, with
a zero after it where no other digit stands there; all others with a
power of ten. -/
def fullNotation : FullNotation := ⟨-4, 16⟩

/-- A number without its sign, in the fewest digits that are read back as
the number. -/
def magnitudeText (mantissa : Nat) (exponent : Int) : Text :=
  if mantissa = 0 then "0.0"
  else
    let decimal := shortest mantissa exponent
    let digits := Text.ofNat decimal.coefficient
    let point := (digits.length : Int) + decimal.exponent
    if fullNotation.smallPoint < point ∧ point ≤ fullNotation.largePoint then
      let (whole, part) := positional digits point
      whole ++ "." ++ (if part = [] then ['0'] else part)
    else
      let tail : Text := if digits.length = 1 then [] else '.' :: digits.drop 1
      digits.take 1 ++ tail ++ "e" ++ exponentText (point - 1)

/-- A floating-point number in full. -/
def fullText : Binary64 → Text
  | .finite negative mantissa exponent =>
    (if negative then "-" else "") ++ magnitudeText mantissa exponent
  | .infinite negative => if negative then "-inf" else "inf"
  | .nan => "nan"

-- ==================================================== rounded notations

/-- A positive fraction rounded to some places after the point, a half to
even. The point is shown without digits after it only on request. -/
def fixedText (num den places : Nat) (keepPoint : Bool) : Text :=
  let scaled := roundHalfEven (num * tenTo places) den
  let digits := Text.zeroPadded (places + 1) scaled
  let whole := digits.take (digits.length - places)
  let part := digits.drop (digits.length - places)
  if part = [] then whole ++ (if keepPoint then "." else "")
  else whole ++ "." ++ part

/-- A positive fraction rounded to one digit before the point and some
after it: the digits, and the power of ten. -/
def roundedDigits (num den places : Nat) : Text × Int :=
  if num = 0 then (List.replicate (places + 1) '0', 0)
  else
    let point := digitsBeforePoint num den
    let (n, d) := inUnits num den (point - 1 - places)
    let rounded := roundHalfEven n d
    if rounded = tenTo (places + 1) then
      (Text.ofNat (rounded / 10), point)
    else (Text.ofNat rounded, point - 1)

/-- Digits with the point after the first, and a power of ten. -/
def scientific (digits : Text) (exponent : Int) (keepPoint : Bool) : Text :=
  let part := digits.drop 1
  let tail : Text :=
    if part = [] then (if keepPoint then "." else "") else '.' :: part
  digits.take 1 ++ tail ++ "e" ++ exponentText exponent

/-- A positive fraction in scientific notation, rounded to some places
after the point. -/
def scientificText (num den places : Nat) (keepPoint : Bool) : Text :=
  let (digits, exponent) := roundedDigits num den places
  scientific digits exponent keepPoint

/-- The text without the given character at its end. -/
def dropTrailing (c : Char) (t : Text) : Text :=
  (t.reverse.dropWhile (· = c)).reverse

/-- A positive fraction rounded to some digits in all, written with a
point where that is no longer, else with a power of ten. The zeros at the
end are dropped unless they are asked for. -/
def generalText (num den digits : Nat) (keepZeros : Bool) : Text :=
  let count := max digits 1
  let (rounded, exponent) := roundedDigits num den (count - 1)
  let kept := if keepZeros then rounded
    else rounded.take 1 ++ dropTrailing '0' (rounded.drop 1)
  if -4 ≤ exponent ∧ exponent < count then
    let (whole, part) := positional kept (exponent + 1)
    if part = [] then whole ++ (if keepZeros then "." else "")
    else whole ++ "." ++ part
  else scientific kept exponent keepZeros

end Logline.Number
