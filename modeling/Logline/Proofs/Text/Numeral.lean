/-
Numerals in a fixed number of places. A number that has room in its
places fills them exactly, with digits only, and is their value, so such
a numeral can be read back wherever its end is known by counting.

The places are those of the number one by one: the last digit comes off
the end (`zeroPadded_succ`), and cutting a numeral to its first places
divides the number by a power of ten (`take_zeroPadded`). That is how a
fraction is cut short.
-/
import Logline.Text
import Mathlib.Algebra.Group.Nat.Defs

namespace Logline.Text

variable {places n : Nat}

-- ======================================================== one numeral

theorem length_ofNat_le_iff (hplaces : 0 < places) :
    (ofNat n).length ≤ places ↔ n < 10 ^ places :=
  Nat.length_toDigits_le_iff (by decide) hplaces

theorem length_zeroPadded_of_lt (hplaces : 0 < places)
    (h : n < 10 ^ places) : (zeroPadded places n).length = places := by
  rw [length_zeroPadded]
  exact Nat.max_eq_left ((length_ofNat_le_iff hplaces).2 h)

theorem isDigit_of_mem_zeroPadded {c : Char} (h : c ∈ zeroPadded places n) :
    c.isDigit = true := by
  rcases List.mem_append.1 h with hfill | hdigit
  · rw [List.eq_of_mem_replicate hfill]
    rfl
  · exact isDigit_of_mem_ofNat hdigit

theorem toNat_zeroPadded (places n : Nat) :
    toNat (zeroPadded places n) = n := by
  show Nat.ofDigitChars 10 (List.replicate _ '0' ++ ofNat n) 0 = n
  rw [Nat.ofDigitChars_append, Nat.ofDigitChars_replicate_zero,
    Nat.mul_zero]
  exact toNat_ofNat n

/-- A number that needs all its places is not filled. -/
theorem zeroPadded_eq_ofNat (h : 10 ^ places ≤ n) :
    zeroPadded (places + 1) n = ofNat n := by
  have hlength : places < (ofNat n).length := by
    by_cases hplaces : places = 0
    · rw [hplaces]
      exact Nat.length_toDigits_pos
    · have hiff := length_ofNat_le_iff (n := n) (Nat.pos_of_ne_zero hplaces)
      omega
  have hfill : places + 1 - (ofNat n).length = 0 := by omega
  show List.replicate (places + 1 - (ofNat n).length) '0' ++ ofNat n = _
  rw [hfill]
  rfl

-- ==================================================== place by place

/-- With one place more there is one digit more at the end. -/
theorem zeroPadded_succ (hplaces : 0 < places) (n : Nat) :
    zeroPadded (places + 1) n
      = zeroPadded places (n / 10) ++ [Nat.digitChar (n % 10)] := by
  show List.replicate (places + 1 - (ofNat n).length) '0' ++ ofNat n
    = List.replicate (places - (ofNat (n / 10)).length) '0'
      ++ ofNat (n / 10) ++ [Nat.digitChar (n % 10)]
  by_cases h : n < 10
  · -- one digit: the numeral of zero in front of it is filling too
    have hdigit : ofNat n = [Nat.digitChar n] := Nat.toDigits_of_lt_base h
    have hzero : ofNat (n / 10) = ['0'] := by
      rw [Nat.div_eq_of_lt h]
      rfl
    obtain ⟨k, rfl⟩ : ∃ k, places = k + 1 := ⟨places - 1, by omega⟩
    rw [hdigit, hzero, Nat.mod_eq_of_lt h, ← List.replicate_succ']
    rfl
  · have hcut : ofNat n = ofNat (n / 10) ++ [Nat.digitChar (n % 10)] :=
      Nat.toDigits_of_base_le (by decide) (by omega)
    rw [hcut, List.length_append, List.length_singleton,
      Nat.add_sub_add_right, List.append_assoc]

/-- The first places of a numeral show what is left after dividing by ten
for each place that is cut. -/
theorem take_zeroPadded (hplaces : 0 < places) (cut : Nat)
    (h : n < 10 ^ (places + cut)) :
    (zeroPadded (places + cut) n).take places
      = zeroPadded places (n / 10 ^ cut) := by
  induction cut generalizing n with
  | zero =>
      rw [Nat.pow_zero, Nat.div_one]
      exact List.take_of_length_le
        (Nat.le_of_eq (length_zeroPadded_of_lt hplaces h))
  | succ cut ih =>
      have hrest : n / 10 < 10 ^ (places + cut) := by
        rw [← Nat.add_assoc, Nat.pow_succ] at h
        omega
      have hlength := length_zeroPadded_of_lt (by omega) hrest
      rw [← Nat.add_assoc, zeroPadded_succ (by omega),
        List.take_append_of_le_length (by omega), ih hrest,
        Nat.div_div_eq_div_mul, Nat.pow_succ, Nat.mul_comm 10]

end Logline.Text
