/-
Binary floating-point numbers of 64 bits. A finite one is a sign, a whole
mantissa of at most 53 bits and a binary exponent not below -1074; the
mantissa has all its 53 bits unless the exponent is the lowest. All
arithmetic is exact on fractions and rounded once, to the nearest such
number, a half to the even mantissa.
-/
import Logline.Number.Power
import Logline.Number.Rounding

namespace Logline.Number

/-- A floating-point number: plus or minus `mantissa * 2 ^ exponent`, or
an infinity, or no number at all. -/
inductive Binary64 where
  | finite (negative : Bool) (mantissa : Nat) (exponent : Int)
  | infinite (negative : Bool)
  | nan
  deriving DecidableEq, Repr

/-- A fraction: numerator and positive denominator. -/
structure Fraction where
  num : Int
  den : Nat
  deriving DecidableEq, Repr

namespace Fraction

/-- The greatest integer that is not greater. -/
def floor (f : Fraction) : Int :=
  f.num.fdiv f.den

/-- The integer next to it on the side of zero. -/
def truncate (f : Fraction) : Int :=
  f.num.tdiv f.den

/-- The nearest integer, a half to the even one. -/
def round (f : Fraction) : Int :=
  let size := roundHalfEven f.num.natAbs f.den
  if f.num < 0 then -(size : Int) else size

/-- The nearest integer, a half away from zero. -/
def roundAway (f : Fraction) : Int :=
  let size := roundHalfUp f.num.natAbs f.den
  if f.num < 0 then -(size : Int) else size

/-- Less an integer. -/
def minus (f : Fraction) (n : Int) : Fraction :=
  ⟨f.num - n * f.den, f.den⟩

/-- Times a natural number. -/
def times (f : Fraction) (n : Nat) : Fraction :=
  ⟨f.num * n, f.den⟩

/-- Is it a whole number? -/
def isWhole (f : Fraction) : Bool :=
  f.num % f.den = 0

end Fraction

namespace Binary64

/-- The lowest binary exponent. -/
def minExponent : Int := -1074

/-- The highest binary exponent. -/
def maxExponent : Int := 971

/-- A fraction `num / den * 2 ^ (-exponent)` as numerator and
denominator. -/
def scaled (num den : Nat) (exponent : Int) : Nat × Nat :=
  if 0 ≤ exponent then (num, den * twoTo exponent.toNat)
  else (num * twoTo (-exponent).toNat, den)

/-- The floating-point number nearest to plus or minus `num / den`. -/
def ofRatio (negative : Bool) (num den : Nat) : Binary64 :=
  if num = 0 then finite negative 0 minExponent
  else
    let low : Int := (num.log2 : Int) - den.log2 - 53
    let (n, d) := scaled num den low
    let exponent := max minExponent (if twoTo 53 * d ≤ n then low + 1 else low)
    let (n, d) := scaled num den exponent
    let rounded := roundHalfEven n d
    let (mantissa, exponent) :=
      if rounded = twoTo 53 then (twoTo 52, exponent + 1) else (rounded, exponent)
    if maxExponent < exponent then infinite negative
    else finite negative mantissa exponent

/-- The floating-point number nearest to a fraction. -/
def ofFraction (f : Fraction) : Binary64 :=
  ofRatio (f.num < 0) f.num.natAbs f.den

/-- The floating-point number nearest to an integer. -/
def ofInt (n : Int) : Binary64 :=
  ofRatio (n < 0) n.natAbs 1

/-- The floating-point number nearest to plus or minus
`coefficient * 10 ^ exponent`. Far outside the range the result is known
without the power of ten. -/
def ofDecimal (negative : Bool) (coefficient : Nat) (exponent : Int) :
    Binary64 :=
  let size : Int := (coefficient.log2 : Int) / 3 + 1
  if coefficient = 0 then finite negative 0 minExponent
  else if 800 < exponent then infinite negative
  else if exponent + size < -800 then finite negative 0 minExponent
  else if 0 ≤ exponent then
    ofRatio negative (coefficient * tenTo exponent.toNat) 1
  else ofRatio negative coefficient (tenTo (-exponent).toNat)

/-- The exact value of a finite number. -/
def toFraction? : Binary64 → Option Fraction
  | finite negative mantissa exponent =>
    let signed : Int := if negative then -(mantissa : Int) else mantissa
    some (if 0 ≤ exponent then ⟨signed * twoTo exponent.toNat, 1⟩
      else ⟨signed, twoTo (-exponent).toNat⟩)
  | _ => none

/-- The value of a fraction once it is kept as a floating-point number;
none when it is too large for one. -/
def kept? (f : Fraction) : Option Fraction :=
  (ofFraction f).toFraction?

/-- Is the sign a minus? -/
def isNegative : Binary64 → Bool
  | finite negative _ _ => negative
  | infinite negative => negative
  | nan => false

end Binary64

end Logline.Number
