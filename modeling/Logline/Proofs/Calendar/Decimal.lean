/-
Fractions in a pattern. A clock counts microseconds, and a fraction in a
pattern shows as many places of them as the pattern has digits, nine at
most. What is shown is a decimal number: the clock's fraction, cut and
never rounded up. Leaving out the zeros at its end does not change the
number, only its length, and nothing is left where the number is zero.

A fraction is read wherever it is written, unless a decimal digit follows
it. A point starts tokens only and stands nowhere else in them, so nothing
in front goes over it, and since it is no digit either, it undoes nothing
in front (`read?_append_point`). So a pattern with a fraction in it is
split there, and what it shows is shown around it
(`formatReference_append_fraction`).
-/
import Logline.Proofs.Calendar.Fraction
import Logline.Proofs.Calendar.Seam
import Mathlib.Algebra.Order.Floor.Semifield
import Mathlib.Data.List.DropRight
import Mathlib.Data.Nat.Cast.Field
import Mathlib.Data.Nat.Cast.Order.Field
import Mathlib.Data.Rat.Floor
import Mathlib.Tactic.Ring

namespace Logline.Calendar

open Text

-- ==================================================== a point in a pattern

/-- A point stands in front of a token or not in it. -/
theorem IsToken.point_not_mem_tail {after word : Text}
    (h : IsToken after word) : '.' ∉ word.tail := by
  cases h with
  | listed hlisted =>
      have hall : ∀ word ∈ vocabulary, '.' ∉ word.tail := by decide
      exact hall word hlisted
  | fraction hdigit =>
      intro hpoint
      rw [← List.eq_of_mem_replicate hpoint] at hdigit
      rcases hdigit with hdigit | hdigit <;> cases hdigit

/-- No token goes on over a point, so what is read off a text is read off
it in front of a point too. -/
theorem read?_append_point {s : Text} (hne : s ≠ []) (behind : Text) :
    Token.read? (s ++ '.' :: behind) = Token.read? s := by
  refine read?_congr (startsToken_append_iff_of_seam ?_ ?_)
  · intro beyond after hbeyond heq hword
    obtain ⟨c, rest, rfl⟩ := List.exists_cons_of_ne_nil hbeyond
    obtain ⟨rfl, -⟩ := List.cons.inj heq
    obtain ⟨d, front, rfl⟩ := List.exists_cons_of_ne_nil hne
    exact hword.point_not_mem_tail
      (List.mem_append_right front List.mem_cons_self)
  · intro word after _
    refine isToken_congr fun _ _ _ _ _ => ?_
    cases after with
    | nil => exact ⟨fun _ => nofun, fun _ c hc => by cases hc; rfl⟩
    | cons c after => exact Iff.rfl

section Pattern

variable {digit : Char} (hdigit : digit = '0' ∨ digit = '9') {places : Nat}
  (hplaces : 0 < places) {w : Text}
  (hw : ∀ c ∈ w.head?, isDecimalDigit c = false)
include hdigit hplaces hw

theorem split_fraction :
    split ('.' :: List.replicate places digit ++ w)
      = .token (.fraction (digit = '9') places) :: split w := by
  have hlength : ('.' :: List.replicate places digit).length = 1 + places := by
    rw [List.length_cons, List.length_replicate, Nat.add_comm]
  have hread : Token.read? ('.' :: List.replicate places digit ++ w)
      = some (.fraction (digit = '9') places, 1 + places) := by
    unfold Token.read?
    rw [fraction?_run hdigit hplaces hw]
  rw [split_of_read? hread, List.drop_left' hlength]

/-- What is written around a fraction is written as it is without it. -/
theorem formatReference_append_fraction (u : Text) (t : Timestamp) :
    formatReference t (u ++ ('.' :: List.replicate places digit ++ w))
      = formatReference t u
        ++ (showFraction (digit = '9') places t.clock.micro
          ++ formatReference t w) := by
  have hglued : split (u ++ ('.' :: List.replicate places digit ++ w))
      = Chunk.glue (split u)
        (split ('.' :: List.replicate places digit ++ w)) :=
    split_append fun s hne _ => read?_append_point hne _
  unfold formatReference
  rw [hglued, Chunk.flatMap_show_glue, split_fraction hdigit hplaces hw,
    List.flatMap_cons]
  rfl

end Pattern

-- ======================================================= decimal numbers

/-- The number that digits behind a point stand for. -/
def decimal (digits : Text) : ℚ :=
  Text.toNat digits / 10 ^ digits.length

theorem toNat_append_zeros (digits : Text) (zeros : Nat) :
    Text.toNat (digits ++ List.replicate zeros '0')
      = 10 ^ zeros * Text.toNat digits := by
  unfold Text.toNat
  rw [Nat.ofDigitChars_append, Nat.ofDigitChars_replicate_zero]

/-- Zeros at the end do not count. -/
theorem decimal_append_zeros (digits : Text) (zeros : Nat) :
    decimal (digits ++ List.replicate zeros '0') = decimal digits := by
  unfold decimal
  rw [toNat_append_zeros, List.length_append, List.length_replicate,
    Nat.add_comm, pow_add, Nat.cast_mul, Nat.cast_pow, Nat.cast_ofNat,
    mul_div_mul_left _ _ (pow_ne_zero zeros (by norm_num))]

theorem toNat_pos_of_getLast? {digits : Text} {c : Char}
    (hlast : digits.getLast? = some c) (hdigit : c.isDigit = true)
    (hc : c ≠ '0') : 0 < Text.toNat digits := by
  obtain ⟨front, rfl⟩ := List.getLast?_eq_some_iff.1 hlast
  have hvalue : Text.toNat (front ++ [c])
      = 10 * Text.toNat front + (c.toNat - '0'.toNat) := by
    unfold Text.toNat
    rw [Nat.ofDigitChars_append, Nat.ofDigitChars_cons, Nat.ofDigitChars_nil]
  have hlow : '0'.toNat ≤ c.toNat := by
    simp only [Char.isDigit, Bool.and_eq_true, decide_eq_true_eq] at hdigit
    exact UInt32.le_iff_toNat_le.1 hdigit.1
  have hne : c.toNat ≠ '0'.toNat := fun h => hc (Char.toNat_inj.1 h)
  omega

-- ====================================================== what is shown

/-- The number that a fraction shows. Where nothing is shown it is zero. -/
def shownValue : Text → ℚ
  | [] => 0
  | _ :: digits => decimal digits

/-- Is a text a point and so many digits? -/
def IsFraction (shown : Text) (places : Nat) : Prop :=
  ∃ digits, shown = '.' :: digits ∧ digits.length = places
    ∧ ∀ c ∈ digits, c.isDigit = true

section Shown

variable {micro places : Nat} (hmicro : micro < 1000000)
  (hplaces : 0 < places)

include hmicro hplaces in
theorem decimal_fractionDigits :
    decimal (fractionDigits places micro)
      = (micro * 1000 / 10 ^ (9 - min places 9) : ℕ)
        / 10 ^ min places 9 := by
  unfold decimal
  rw [length_fractionDigits places hmicro, fractionDigits_eq hplaces hmicro,
    toNat_zeroPadded]

/-- The fraction of the clock, with the places that are cut off apart from
those that are kept. -/
theorem micro_div_eq (micro places : Nat) :
    (micro : ℚ) / 10 ^ 6
      = ((micro * 1000 : ℕ) : ℚ) / (10 ^ (9 - min places 9) : ℕ)
        / 10 ^ min places 9 := by
  have hnine : 9 - min places 9 + min places 9 = 9 := by omega
  rw [div_div, Nat.cast_mul, Nat.cast_pow, Nat.cast_ofNat, Nat.cast_ofNat,
    ← pow_add, hnine]
  ring

include hmicro hplaces in
theorem decimal_fractionDigits_le :
    decimal (fractionDigits places micro) ≤ (micro : ℚ) / 10 ^ 6 := by
  rw [decimal_fractionDigits hmicro hplaces, micro_div_eq micro places]
  exact div_le_div_of_nonneg_right Nat.cast_div_le (by positivity)

include hmicro hplaces in
theorem lt_decimal_fractionDigits :
    (micro : ℚ) / 10 ^ 6
      < decimal (fractionDigits places micro) + 1 / 10 ^ min places 9 := by
  rw [decimal_fractionDigits hmicro hplaces, micro_div_eq micro places,
    ← add_div]
  refine div_lt_div_of_pos_right ?_ (by positivity)
  rw [← Nat.floor_div_eq_div (K := ℚ)]
  exact Nat.lt_floor_add_one _

include hmicro in
/-- A clock has no more than six places, so from six on nothing is cut. -/
theorem decimal_fractionDigits_of_six_le (h : 6 ≤ places) :
    decimal (fractionDigits places micro) = (micro : ℚ) / 10 ^ 6 := by
  have hdvd : 10 ^ (9 - min places 9) ∣ micro * 1000 :=
    Dvd.dvd.mul_left (pow_dvd_pow 10 (by omega : 9 - min places 9 ≤ 3)) micro
  rw [decimal_fractionDigits hmicro (by omega), micro_div_eq micro places,
    Nat.cast_div hdvd (by positivity)]

end Shown

-- ============================================== zeros at the end left out

/-- The digits with the zeros at the end left out. -/
def trimmedDigits (digits : Text) : Text :=
  digits.rdropWhile (· = '0')

theorem exists_zeros (digits : Text) :
    ∃ zeros, digits = trimmedDigits digits ++ List.replicate zeros '0' := by
  refine ⟨(digits.rtakeWhile (· = '0')).length, ?_⟩
  have hzeros : ∀ c ∈ digits.rtakeWhile (· = '0'), c = '0' := by
    intro c hc
    simpa using List.mem_rtakeWhile_imp hc
  rw [← List.eq_replicate_of_mem hzeros]
  exact List.rdropWhile_append_rtakeWhile.symm

theorem mem_of_mem_trimmedDigits {digits : Text} {c : Char}
    (h : c ∈ trimmedDigits digits) : c ∈ digits := by
  obtain ⟨zeros, heq⟩ := exists_zeros digits
  rw [heq]
  exact List.mem_append_left _ h

theorem decimal_trimmedDigits (digits : Text) :
    decimal (trimmedDigits digits) = decimal digits := by
  obtain ⟨zeros, heq⟩ := exists_zeros digits
  have happend := decimal_append_zeros (trimmedDigits digits) zeros
  rw [← heq] at happend
  exact happend.symm

theorem getLast?_trimmedDigits (digits : Text) :
    (trimmedDigits digits).getLast? ≠ some '0' := by
  intro hlast
  obtain ⟨hne, hzero⟩ := List.mem_getLast?_eq_getLast hlast
  exact List.rdropWhile_last_not _ digits hne (decide_eq_true hzero.symm)

/-- Digits are trimmed away exactly where all of them are zeros. -/
theorem trimmedDigits_eq_nil_iff {digits : Text}
    (h : ∀ c ∈ digits, c.isDigit = true) :
    trimmedDigits digits = [] ↔ decimal digits = 0 := by
  rw [← decimal_trimmedDigits digits]
  constructor
  · intro hnil
    rw [hnil]
    exact zero_div _
  · intro hzero
    by_contra hne
    -- the last digit that is left is no zero
    obtain ⟨front, c, heq⟩ := List.eq_nil_or_concat' _ |>.resolve_left hne
    have hlast : (trimmedDigits digits).getLast? = some c := by
      rw [heq, List.getLast?_concat]
    have hmem : c ∈ digits :=
      mem_of_mem_trimmedDigits (List.mem_of_getLast? hlast)
    have hpos := toNat_pos_of_getLast? hlast (h c hmem) fun hc =>
      getLast?_trimmedDigits digits (hc ▸ hlast)
    exact absurd hzero (div_pos (Nat.cast_pos.2 hpos) (by positivity)).ne'

/-- Digits with a point in front, where there are any. -/
def behindPoint (digits : Text) : Text :=
  if digits = [] then [] else '.' :: digits

theorem behindPoint_eq_nil_iff (digits : Text) :
    behindPoint digits = [] ↔ digits = [] := by
  cases digits with
  | nil => exact Iff.rfl
  | cons c digits => exact ⟨nofun, nofun⟩

theorem shownValue_behindPoint (digits : Text) :
    shownValue (behindPoint digits) = decimal digits := by
  cases digits with
  | nil => exact (zero_div _).symm
  | cons c digits => rfl

theorem isFraction_behindPoint {digits : Text}
    (hdigits : ∀ c ∈ digits, c.isDigit = true)
    (hne : behindPoint digits ≠ []) :
    ∃ n, 0 < n ∧ IsFraction (behindPoint digits) n := by
  cases digits with
  | nil => exact absurd rfl hne
  | cons c digits =>
      exact ⟨_, Nat.succ_pos digits.length, c :: digits, rfl, rfl, hdigits⟩

theorem getLast?_behindPoint (digits : Text) :
    (behindPoint digits).getLast? = digits.getLast? := by
  cases digits with
  | nil => rfl
  | cons c digits => exact List.getLast?_cons_cons

theorem showFraction_trimmed (places micro : Nat) :
    showFraction true places micro
      = behindPoint (trimmedDigits (fractionDigits places micro)) :=
  rfl

-- ============================================== fractions in a pattern

/-- A fraction in a pattern, with no decimal digit behind it, shows that of
the clock in as many places, or in nine, and what is cut off is less than
one in the last place; from six places on nothing is cut off. Written with
nines it shows the same number without a zero at its end, and nothing
exactly if that is zero. -/
theorem formatReference_fraction {places : Nat} (hplaces : 0 < places)
    {w : Text} (hw : ∀ c ∈ w.head?, isDecimalDigit c = false) (u : Text)
    (t : Timestamp) :
    ∃ full short : Text,
      formatReference t (u ++ ('.' :: List.replicate places '0' ++ w))
          = formatReference t u ++ (full ++ formatReference t w)
        ∧ formatReference t (u ++ ('.' :: List.replicate places '9' ++ w))
          = formatReference t u ++ (short ++ formatReference t w)
        ∧ IsFraction full (min places 9)
        ∧ shownValue full ≤ (t.clock.micro : ℚ) / 10 ^ 6
        ∧ (t.clock.micro : ℚ) / 10 ^ 6
          < shownValue full + 1 / 10 ^ min places 9
        ∧ (6 ≤ places → shownValue full = (t.clock.micro : ℚ) / 10 ^ 6)
        ∧ (short ≠ [] → ∃ n, 0 < n ∧ IsFraction short n)
        ∧ short.getLast? ≠ some '0'
        ∧ shownValue short = shownValue full
        ∧ (short = [] ↔ shownValue full = 0) := by
  have hmicro := t.clock.micro_lt
  have hdigits : ∀ c ∈ fractionDigits places t.clock.micro,
      c.isDigit = true := fun c => isDigit_of_mem_fractionDigits
  have htrimmed := fun c h => hdigits c (mem_of_mem_trimmedDigits h)
  refine ⟨_, _, formatReference_append_fraction (.inl rfl) hplaces hw u t,
    formatReference_append_fraction (.inr rfl) hplaces hw u t,
    ⟨_, rfl, length_fractionDigits places hmicro, hdigits⟩,
    decimal_fractionDigits_le hmicro hplaces,
    lt_decimal_fractionDigits hmicro hplaces,
    decimal_fractionDigits_of_six_le hmicro, ?_⟩
  -- what nines show is behind a point, where there is anything left
  rw [decide_eq_true rfl, showFraction_trimmed]
  refine ⟨isFraction_behindPoint htrimmed, ?_, ?_, ?_⟩
  · rw [getLast?_behindPoint]
    exact getLast?_trimmedDigits _
  · rw [shownValue_behindPoint, decimal_trimmedDigits]
    rfl
  · rw [behindPoint_eq_nil_iff]
    exact trimmedDigits_eq_nil_iff hdigits

/-- Twelve places of a fraction that starts with a zero and needs three:
nine are shown with the zeros at its end, and three without. -/
theorem formatReference_fraction_twelve :
    let t : Timestamp := ⟨.mk 2025 12 30, .mk 8 12 4 12000, none⟩
    formatReference t "05.000000000000Z07" = "04.012000000Z"
      ∧ formatReference t "05.999999999999Z07" = "04.012Z"
      ∧ IsFraction ".012000000" 9
      ∧ shownValue ".012000000" = (12000 : ℚ) / 10 ^ 6
      ∧ shownValue ".012" = shownValue ".012000000" := by
  intro t
  have hw : ∀ c ∈ List.head? ['Z', '0', '7'], isDecimalDigit c = false := by
    intro c hc
    cases hc
    rfl
  obtain ⟨full, short, hfull, hshort, hfraction, -, -, hexact, -, -, hsame,
    -⟩ := formatReference_fraction (by decide : 0 < 12) hw "05" t
  have hlong : formatReference t "05.000000000000Z07"
      = "04" ++ (".012000000" ++ ['Z']) := by decide +kernel
  have hcut : formatReference t "05.999999999999Z07"
      = "04" ++ (".012" ++ ['Z']) := by decide +kernel
  have hfront : formatReference t "05" = "04" := by decide +kernel
  have hbehind : formatReference t ['Z', '0', '7'] = ['Z'] := by
    decide +kernel
  rw [hfront, hbehind] at hfull hshort
  obtain rfl := List.append_cancel_right
    (List.append_cancel_left (hfull.symm.trans hlong))
  obtain rfl := List.append_cancel_right
    (List.append_cancel_left (hshort.symm.trans hcut))
  exact ⟨hlong, hcut, hfraction, hexact (by decide), hsame⟩

end Logline.Calendar
