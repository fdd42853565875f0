/-
Powers of the two bases that numbers are kept and written in, and the
bounds that a count of bits sets.
-/
namespace Logline.Number

/-- Two to a power. -/
def twoTo (n : Nat) : Nat :=
  Nat.pow 2 n

/-- Ten to a power. -/
def tenTo (n : Nat) : Nat :=
  Nat.pow 10 n

/-- Does an integer fit so many bits, one of them for its sign? -/
def fitsBits (bits : Nat) (n : Int) : Bool :=
  -(twoTo (bits - 1) : Int) ≤ n && n < twoTo (bits - 1)

end Logline.Number
