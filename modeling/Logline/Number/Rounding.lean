/-
Rounding of quotients. A quotient of natural numbers is rounded to one of
its two neighbours; a half goes to the even neighbour, or up.
-/
namespace Logline.Number

/-- The quotient rounded to the nearest natural number, a half to the
even one. -/
def roundHalfEven (num den : Nat) : Nat :=
  let low := num / den
  let twice := 2 * (num % den)
  if twice < den then low
  else if den < twice then low + 1
  else if low % 2 = 0 then low else low + 1

/-- The quotient rounded to the nearest natural number, a half up. -/
def roundHalfUp (num den : Nat) : Nat :=
  (2 * num + den) / (2 * den)

end Logline.Number
