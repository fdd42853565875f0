/-
The shortest decimal of a floating-point number: the fewest digits that
are read back as the number, and of those the nearest to it.

The numbers that are read back as the given one form an interval, whose
ends belong to it when the mantissa is even. For one digit, two digits
and so on, the two neighbours of the number on that decimal grid are
tried; the first grid on which one lies in the interval wins. If any
point of a grid lies in the interval then so does a neighbour, so no
shorter decimal is missed.
-/
import Logline.Number.Binary64

namespace Logline.Number

/-- A decimal: `coefficient * 10 ^ exponent`. -/
structure Decimal where
  coefficient : Nat
  exponent : Int
  deriving DecidableEq, Repr

/-- The number of digits before the decimal point of a positive fraction;
minus the number of zeros right after the point when there is none
before it. -/
def digitsBeforePoint (num den : Nat) : Int :=
  if den ≤ num then (Nat.toDigits 10 (num / den)).length
  else
    match (List.range 400).find? fun k => den ≤ num * tenTo (k + 1) with
    | some k => -(k : Int)
    | none => -400

/-- The fraction counted in units of `10 ^ exponent`. -/
def inUnits (num den : Nat) (exponent : Int) : Nat × Nat :=
  if 0 ≤ exponent then (num, den * tenTo exponent.toNat)
  else (num * tenTo (-exponent).toNat, den)

/-- The coefficient without the zeros at its end. -/
def dropZeros (coefficient : Nat) (exponent : Int) : Decimal :=
  if h : coefficient ≠ 0 ∧ coefficient % 10 = 0 then
    dropZeros (coefficient / 10) (exponent + 1)
  else ⟨coefficient, exponent⟩
termination_by coefficient
decreasing_by
  omega

/-- The shortest decimal of the positive number
`mantissa * 2 ^ exponent`. All ends are counted in quarters of the last
binary place, because the gap below a power of two is half as wide. -/
def shortest (mantissa : Nat) (exponent : Int) : Decimal :=
  let narrow := mantissa = twoTo 52 ∧ Binary64.minExponent < exponent
  let low := 4 * mantissa - (if narrow then 1 else 2)
  let high := 4 * mantissa + 2
  let closed := mantissa % 2 = 0
  let quarter := exponent - 2
  let up := if 0 ≤ quarter then twoTo quarter.toNat else 1
  let den := if 0 ≤ quarter then 1 else twoTo (-quarter).toNat
  let num := 4 * mantissa * up
  let point := digitsBeforePoint num den
  let onGrid (digits : Nat) : Option Decimal :=
    let place := point - digits
    let (n, d) := inUnits num den place
    let below := n / d
    let inside (c : Nat) : Bool :=
      -- the end points in the same units, with the same denominator
      let (l, _) := inUnits (low * up) den place
      let (h, _) := inUnits (high * up) den place
      if closed then l ≤ c * d && c * d ≤ h else l < c * d && c * d < h
    let nearer := if 2 * (n % d) < d then below
      else if d < 2 * (n % d) then below + 1
      else if below % 2 = 0 then below else below + 1
    let farther := if nearer = below then below + 1 else below
    if inside nearer then some (dropZeros nearer place)
    else if inside farther then some (dropZeros farther place)
    else none
  match (List.range' 1 17).findSome? onGrid with
  | some decimal => decimal
  | none => dropZeros num 0

end Logline.Number
