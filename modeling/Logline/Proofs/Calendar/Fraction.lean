/-
Fractions of a second. A clock keeps six places of one, a reference
pattern can show nine, and a text that is read can have any number, so
writing a fraction cuts or fills its places and reading it does the same.
Cutting divides the number by ten for each place (`fractionDigits_eq`).
In six places nothing is cut and nothing is filled: the fraction is the
numeral of the microseconds, and it is read back as them, provided that
no digit follows, since it is the digits' end that ends a fraction.
-/
import Logline.Calendar.Reading
import Logline.Calendar.Reference
import Logline.Proofs.Text.Numeral
import Mathlib.Data.List.TakeDrop

namespace Logline.Calendar

open Text

-- ================================================== cutting and filling

/-- The digits of a fraction: nine places of a second, cut. -/
def fractionDigits (places micro : Nat) : Text :=
  (zeroPadded 9 (micro * 1000)).take places

section Cut

variable {places micro : Nat}

theorem isDigit_of_mem_fractionDigits {c : Char}
    (h : c ∈ fractionDigits places micro) : c.isDigit = true :=
  isDigit_of_mem_zeroPadded (List.mem_of_mem_take h)

theorem length_nanos (h : micro < 1000000) :
    (zeroPadded 9 (micro * 1000)).length = 9 :=
  length_zeroPadded_of_lt (by decide) (by omega)

theorem length_fractionDigits (places : Nat) (h : micro < 1000000) :
    (fractionDigits places micro).length = min places 9 := by
  unfold fractionDigits
  rw [List.length_take, length_nanos h]

/-- The places that are cut off divide by ten each. -/
theorem fractionDigits_eq (hplaces : 0 < places) (h : micro < 1000000) :
    fractionDigits places micro
      = zeroPadded (min places 9)
        (micro * 1000 / 10 ^ (9 - min places 9)) := by
  have hnine : min places 9 + (9 - min places 9) = 9 := by omega
  have hlt : micro * 1000 < 10 ^ (min places 9 + (9 - min places 9)) := by
    rw [hnine]
    omega
  have hcut := take_zeroPadded (by omega) (9 - min places 9) hlt
  rw [hnine] at hcut
  rw [← hcut, ← List.take_take,
    List.take_of_length_le (Nat.le_of_eq (length_nanos h))]
  rfl

end Cut

theorem showFraction_six (c : Clock) :
    showFraction false 6 c.micro = '.' :: zeroPadded 6 c.micro := by
  have hscale : c.micro * 1000 / 10 ^ 3 = c.micro := by omega
  show '.' :: fractionDigits 6 c.micro = _
  rw [fractionDigits_eq (by decide) c.micro_lt]
  show '.' :: zeroPadded 6 (c.micro * 1000 / 10 ^ 3) = _
  rw [hscale]

-- ============================================================ reading it

/-- A fraction in six places is read back, up to what is no digit. -/
theorem readFraction_six {micro : Nat} (h : micro < 1000000) {rest : Text}
    (hrest : ∀ c ∈ rest.head?, c.isDigit = false) :
    readFraction ('.' :: zeroPadded 6 micro ++ rest)
      = some (micro, rest) := by
  have hlength : (zeroPadded 6 micro).length = 6 :=
    length_zeroPadded_of_lt (by decide) h
  have hdigits : ∀ c ∈ zeroPadded 6 micro, c.isDigit = true :=
    fun _ hc => isDigit_of_mem_zeroPadded hc
  have htake : (zeroPadded 6 micro ++ rest).takeWhile Char.isDigit
      = zeroPadded 6 micro := by
    rw [List.takeWhile_append_of_pos hdigits]
    cases rest with
    | nil => exact List.append_nil _
    | cons c rest =>
        rw [List.takeWhile_cons_of_neg (by simp [hrest c rfl]),
          List.append_nil]
  have hdrop : (zeroPadded 6 micro ++ rest).dropWhile Char.isDigit
      = rest := by
    rw [List.dropWhile_append_of_pos hdigits]
    cases rest with
    | nil => rfl
    | cons c rest =>
        rw [List.dropWhile_cons_of_neg (by simp [hrest c rfl])]
  have hmicros : microsOfDigits (zeroPadded 6 micro) = micro := by
    unfold microsOfDigits
    rw [List.take_left' hlength, toNat_zeroPadded]
  obtain ⟨c, digits, hcons⟩ : ∃ c digits, zeroPadded 6 micro = c :: digits :=
    List.exists_cons_of_length_pos (by omega)
  rw [hcons] at htake hdrop hmicros ⊢
  show readFraction ('.' :: (c :: digits ++ rest)) = _
  rw [readFraction, if_pos (.inl rfl), List.span_eq_takeWhile_dropWhile,
    htake, hdrop]
  show some (microsOfDigits (c :: digits), rest) = _
  rw [hmicros]

theorem readFraction_none {rest : Text}
    (hrest : ∀ c ∈ rest.head?, c ≠ '.' ∧ c ≠ ',') :
    readFraction rest = some (0, rest) := by
  cases rest with
  | nil => rfl
  | cons c rest =>
      obtain ⟨hpoint, hcomma⟩ := hrest c rfl
      rw [readFraction, if_neg (not_or.2 ⟨hpoint, hcomma⟩)]

end Logline.Calendar
