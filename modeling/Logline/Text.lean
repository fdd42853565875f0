/-
Texts. A text is the list of its characters, so every position and every
length in this library counts code points, and two texts are equal when
they hold the same characters in the same order.

The numerals here are the ones that lines, messages and listings share:
decimal, with a sign where the number has one, and padded on the left
where a field has a fixed width.
-/
namespace Logline

/-- A text: its characters in order. -/
abbrev Text := List Char

instance : Coe String Text := ⟨String.toList⟩

namespace Text

/-- The texts one after another, with a separator between neighbours. -/
def joinWith (sep : Text) (ts : List Text) : Text :=
  List.intercalate sep ts

/-- The decimal numeral of a natural number, without leading zeros. -/
def ofNat (n : Nat) : Text :=
  Nat.toDigits 10 n

/-- The decimal numeral of an integer; a minus sign marks the negative. -/
def ofInt : Int → Text
  | .ofNat n => ofNat n
  | .negSucc n => '-' :: ofNat (n + 1)

/-- The decimal numeral, filled with zeros up to a width. -/
def zeroPadded (width n : Nat) : Text :=
  (ofNat n).leftpad width '0'

/-- The decimal numeral, filled with blanks up to a width. -/
def blankPadded (width n : Nat) : Text :=
  (ofNat n).leftpad width ' '

/-- The value of a text of decimal digits. -/
def toNat (t : Text) : Nat :=
  Nat.ofDigitChars 10 t 0

/-- Does the text start with the word? -/
def startsWith (t word : Text) : Bool :=
  word.isPrefixOf t

/-- Does the text come no later than another in the order of code points?
A text comes before the ones that it starts. -/
def notAfter : Text → Text → Bool
  | [], _ => true
  | _ :: _, [] => false
  | a :: s, b :: t =>
    decide (a.toNat < b.toNat) || (a.toNat == b.toNat && notAfter s t)

/-- Cuts at the first separator: what stands before it, and what stands
after it if there is one. -/
def cutAt (sep : Char) (t : Text) : Text × Option Text :=
  match t.span (· != sep) with
  | (before, _ :: after) => (before, some after)
  | (before, []) => (before, none)

-- ==================================================== lengths and digits

theorem length_zeroPadded (width n : Nat) :
    (zeroPadded width n).length = max width (ofNat n).length := by
  simp only [zeroPadded, List.leftpad, List.length_append,
    List.length_replicate]
  omega

theorem toNat_ofNat (n : Nat) : toNat (ofNat n) = n :=
  Nat.ofDigitChars_ten_toDigits

theorem isDigit_of_mem_ofNat {c : Char} {n : Nat} (h : c ∈ ofNat n) :
    c.isDigit = true :=
  Nat.isDigit_of_mem_toDigits (by decide) (by decide) h

end Text

end Logline
