/-
Numerals of integers. An integer written in decimal is read only up to a
number of digits; a longer numeral is refused before it is looked at. Its
sign does not count.
-/
import Logline.Text

namespace Logline.Number

/-- The most digits that a numeral may have. -/
def maxNumeral : Nat := 4300

/-- The wording of a numeral with too many digits. -/
def longNumeralMessage (digits : Nat) : Text :=
  "Exceeds the limit (" ++ Text.ofNat maxNumeral ++
    " digits) for integer string conversion: value has " ++
    Text.ofNat digits ++
    " digits; use sys.set_int_max_str_digits() to increase the limit"

/-- The integer of a sign and decimal digits, or the number of digits
when there are too many. -/
def ofNumeral (negative : Bool) (digits : Text) : Except Nat Int :=
  if maxNumeral < digits.length then .error digits.length
  else
    let size : Int := Text.toNat digits
    .ok (if negative then -size else size)

end Logline.Number
