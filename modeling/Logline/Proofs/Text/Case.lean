/-
Texts that differ in case, or in the blanks around them. The letters of
ASCII have one upper case whichever case they are in, so a text keeps its
upper case when they change theirs. And trimming takes no notice of what
blanks stand around a text.

A word is a text of letters of ASCII. Case does not matter to what is one,
and no character of a word is blank. A numeral has no letters, so case does
not matter to what is one either, and no word is a numeral
(`numeral?_congr`, `numeral?_of_isWord`).
-/
import Mathlib.Data.List.TakeWhile
import Logline.Level

namespace Logline

namespace Text

-- ================================================= letters and digits

/-- Where the capitals of ASCII stand. -/
theorem isUpper_iff {c : Char} :
    c.isUpper = true ↔ 65 ≤ c.toNat ∧ c.toNat ≤ 90 :=
  decide_eq_true_iff.trans
    (and_congr UInt32.le_iff_toNat_le UInt32.le_iff_toNat_le)

/-- Where the letters of ASCII stand. -/
theorem toNat_of_isAlpha {c : Char} (h : c.isAlpha = true) :
    65 ≤ c.toNat ∧ c.toNat ≤ 90 ∨ 97 ≤ c.toNat ∧ c.toNat ≤ 122 := by
  rcases Bool.or_eq_true_iff.1 h with hupper | hlower
  · exact .inl (isUpper_iff.1 hupper)
  · obtain ⟨hfirst, hlast⟩ := Bool.and_eq_true_iff.1 hlower
    exact .inr ⟨UInt32.le_iff_toNat_le.1 (of_decide_eq_true hfirst),
      UInt32.le_iff_toNat_le.1 (of_decide_eq_true hlast)⟩

/-- Where the digits of ASCII stand. -/
theorem toNat_of_isDigit {c : Char} (h : c.isDigit = true) :
    48 ≤ c.toNat ∧ c.toNat ≤ 57 :=
  Char.isDigit_iff_toNat.1 h

theorem isDigit_of_isAlpha {c : Char} (h : c.isAlpha = true) :
    c.isDigit = false := by
  refine Bool.eq_false_iff.2 fun hdigit => ?_
  have hletter := toNat_of_isAlpha h
  have hcode := toNat_of_isDigit hdigit
  omega

/-- The visible characters of ASCII are not blank. -/
theorem isBlank_of_visible {c : Char} (h : 0x20 < c.toNat ∧ c.toNat < 0x7f) :
    isBlank c = false := by
  have hcodes : ∀ code ∈ blankCodes, ¬ (0x20 < code ∧ code < 0x7f) := by
    decide
  refine Bool.eq_false_iff.2 fun hblank => ?_
  exact hcodes c.toNat (List.contains_iff_mem.1 hblank) h

/-- Whatever is no capital of ASCII is its own lower case here. -/
theorem toLower_eq_self {c : Char} (h : ¬ c.isUpper = true) :
    c.toLower = c :=
  dif_neg fun hcapital => h (decide_eq_true hcapital)

/-- The lower case of a capital of ASCII is a letter of the same upper
case. -/
theorem toLower_of_isUpper {c : Char} (h : c.isUpper = true) :
    c.toLower.isAlpha = true ∧ c.toLower.toUpper = c.toUpper := by
  have hcapitals : ∀ code < 91, 65 ≤ code →
      (Char.ofNat code).toLower.isAlpha = true
        ∧ (Char.ofNat code).toLower.toUpper = (Char.ofNat code).toUpper := by
    decide
  obtain ⟨hfirst, hlast⟩ := isUpper_iff.1 h
  have hcode := hcapitals c.toNat (Nat.lt_succ_of_le hlast) hfirst
  rwa [Char.ofNat_toNat] at hcode

/-- A capital of ASCII is a letter, and so is its lower case. -/
theorem isAlpha_of_isUpper {c : Char} (h : c.isUpper = true) :
    c.isAlpha = true ∧ c.toLower.isAlpha = true :=
  ⟨Bool.or_eq_true_iff.2 (.inl h), (toLower_of_isUpper h).1⟩

theorem isAlpha_toLower (c : Char) : c.toLower.isAlpha = c.isAlpha := by
  by_cases hupper : c.isUpper = true
  · obtain ⟨halpha, hlower⟩ := isAlpha_of_isUpper hupper
    rw [halpha, hlower]
  · rw [toLower_eq_self hupper]

/-- A letter of ASCII has one upper case in both its cases. -/
theorem upperChar_toLower (c : Char) : upperChar c.toLower = upperChar c := by
  by_cases hupper : c.isUpper = true
  · obtain ⟨halpha, hlower⟩ := isAlpha_of_isUpper hupper
    have hcode := toNat_of_isAlpha halpha
    have hlowerCode := toNat_of_isAlpha hlower
    rw [upperChar, upperChar, if_pos (by omega), if_pos (by omega),
      (toLower_of_isUpper hupper).2]
  · rw [toLower_eq_self hupper]

/-- A text has one upper case, whichever cases its letters are in. -/
theorem upper_eq_of_toLower_eq {s t : Text}
    (h : s.map Char.toLower = t.map Char.toLower) : upper s = upper t := by
  have hupper : ∀ t : Text, upper (t.map Char.toLower) = upper t := by
    intro t
    rw [upper, List.flatMap_map]
    exact congrArg t.flatMap (funext upperChar_toLower)
  rw [← hupper s, h, hupper t]

/-- A text without letters of ASCII has one case only. -/
theorem eq_of_toLower_eq {s t : Text}
    (ht : ∀ c ∈ t, c.isAlpha = false)
    (h : s.map Char.toLower = t.map Char.toLower) : s = t := by
  induction s generalizing t with
  | nil => exact (List.map_eq_nil_iff.1 h.symm).symm
  | cons c s ih =>
      obtain ⟨d, t, rfl, hc, hs⟩ := List.map_eq_cons_iff.1 h.symm
      have hd := ht d List.mem_cons_self
      have hkept : d.toLower = d := by
        refine toLower_eq_self fun hupper => ?_
        rw [(isAlpha_of_isUpper hupper).1] at hd
        cases hd
      have hsame : c = d := by
        by_cases hupper : c.isUpper = true
        · rw [← hkept, hc, (isAlpha_of_isUpper hupper).2] at hd
          cases hd
        · rw [← hkept, hc, toLower_eq_self hupper]
      rw [hsame, ih (fun e he => ht e (List.mem_cons_of_mem d he)) hs.symm]

-- ============================================================== blanks

/-- Blanks on the two sides of a text are trimmed off. -/
theorem trim_between {before t after : Text}
    (hbefore : ∀ c ∈ before, isBlank c = true)
    (hafter : ∀ c ∈ after, isBlank c = true) :
    trim (before ++ t ++ after) = trim t := by
  have hend : ∀ c ∈ after.reverse, isBlank c = true :=
    fun c hc => hafter c (List.mem_reverse.1 hc)
  have hstart : (before ++ t ++ after).dropWhile isBlank
      = (t ++ after).dropWhile isBlank := by
    rw [List.append_assoc, List.dropWhile_append_of_pos hbefore]
  rw [trim, trim, hstart, List.dropWhile_append]
  split
  · next hnil =>
    rw [List.isEmpty_iff.1 hnil, List.dropWhile_eq_nil_iff.2 hafter]
  · rw [List.reverse_append, List.dropWhile_append_of_pos hend]

/-- A text without blanks is found again between blanks. -/
theorem trim_surrounded {before t after : Text}
    (hbefore : ∀ c ∈ before, isBlank c = true)
    (ht : ∀ c ∈ t, isBlank c = false)
    (hafter : ∀ c ∈ after, isBlank c = true) :
    trim (before ++ t ++ after) = t := by
  have hkept : ∀ s : Text, (∀ c ∈ s, isBlank c = false) →
      s.dropWhile isBlank = s := by
    intro s hs
    rw [List.dropWhile_eq_self_iff]
    intro hlength
    rw [hs _ (List.getElem_mem hlength)]
    decide
  rw [trim_between hbefore hafter, trim, hkept t ht, hkept _ fun c hc =>
    ht c (List.mem_reverse.1 hc), List.reverse_reverse]

theorem isBlank_toLower (c : Char) : isBlank c.toLower = isBlank c := by
  by_cases hupper : c.isUpper = true
  · obtain ⟨halpha, hlower⟩ := isAlpha_of_isUpper hupper
    have hcode := toNat_of_isAlpha halpha
    have hlowerCode := toNat_of_isAlpha hlower
    rw [isBlank_of_visible (by omega), isBlank_of_visible (by omega)]
  · rw [toLower_eq_self hupper]

/-- Texts that differ in case do so when they are trimmed. -/
theorem trim_map_toLower (t : Text) :
    trim (t.map Char.toLower) = (trim t).map Char.toLower := by
  have hblank : isBlank ∘ Char.toLower = isBlank := funext isBlank_toLower
  unfold trim
  rw [List.dropWhile_map, hblank, ← List.map_reverse, List.dropWhile_map,
    hblank, List.map_reverse]

-- =============================================================== words

/-- Is a text a word: one or more letters of ASCII, and nothing else? -/
def IsWord (t : Text) : Prop :=
  t ≠ [] ∧ ∀ c ∈ t, c.isAlpha = true

instance (t : Text) : Decidable t.IsWord :=
  inferInstanceAs (Decidable (_ ∧ _))

theorem IsWord.isBlank {t : Text} (h : t.IsWord) {c : Char} (hc : c ∈ t) :
    isBlank c = false := by
  have hletter := toNat_of_isAlpha (h.2 c hc)
  exact isBlank_of_visible (by omega)

/-- What is written like a word in another case is a word. -/
theorem IsWord.of_toLower_eq {s t : Text} (ht : t.IsWord)
    (h : s.map Char.toLower = t.map Char.toLower) : s.IsWord := by
  constructor
  · rintro rfl
    exact ht.1 (List.map_eq_nil_iff.1 h.symm)
  · intro c hc
    have hmem : c.toLower ∈ t.map Char.toLower :=
      h ▸ List.mem_map_of_mem hc
    obtain ⟨d, hd, heq⟩ := List.mem_map.1 hmem
    rw [← isAlpha_toLower, ← heq, isAlpha_toLower]
    exact ht.2 d hd

end Text

-- ============================================================ numerals

/-- Is a text an integer in decimal: a minus sign if it is negative, and
then digits of ASCII, one or more? -/
structure IsNumeral (t : Text) (negative : Bool) (digits : Text) :
    Prop where
  eq_append : t = (if negative then ['-'] else []) ++ digits
  ne_nil : digits ≠ []
  isDigit : ∀ c ∈ digits, c.isDigit = true

section Numerals

variable {t digits : Text} {negative : Bool}

/-- A text that starts with no minus sign is a numeral when it is all
digits. -/
theorem numeral?_unsigned {c : Char} (hc : c ≠ '-') (rest : Text) :
    numeral? (c :: rest)
      = if (c :: rest).all Char.isDigit then some (false, c :: rest)
        else none := by
  unfold numeral?
  split
  next heq =>
  split at heq
  · next hminus =>
    cases hminus
    exact absurd rfl hc
  · cases heq
    simp only [ne_eq, reduceCtorEq, not_false_eq_true, true_and]

theorem numeral?_signed (rest : Text) :
    numeral? ('-' :: rest)
      = if rest ≠ [] ∧ rest.all Char.isDigit then some (true, rest)
        else none :=
  rfl

/-- Numerals are taken apart into their sign and their digits. -/
theorem numeral?_eq_some_iff :
    numeral? t = some (negative, digits) ↔ IsNumeral t negative digits := by
  constructor
  · intro h
    cases t with
    | nil => cases h
    | cons c rest =>
        by_cases hc : c = '-'
        · rw [hc, numeral?_signed] at h
          split at h
          · next hdigits =>
            cases h
            exact ⟨by rw [hc]; rfl, hdigits.1, List.all_eq_true.1 hdigits.2⟩
          · cases h
        · rw [numeral?_unsigned hc] at h
          split at h
          · next hdigits =>
            cases h
            exact ⟨rfl, List.cons_ne_nil c rest, List.all_eq_true.1 hdigits⟩
          · cases h
  · rintro ⟨rfl, hne, hdigits⟩
    have hall := List.all_eq_true.2 hdigits
    cases negative with
    | true => exact if_pos ⟨hne, hall⟩
    | false =>
        obtain ⟨c, rest, rfl⟩ := List.exists_cons_of_ne_nil hne
        have hc : c ≠ '-' := by
          rintro rfl
          exact absurd (hdigits _ List.mem_cons_self) (by decide)
        exact (numeral?_unsigned hc rest).trans (if_pos hall)

theorem numeral?_eq_none_iff :
    numeral? t = none ↔ ∀ negative digits, ¬ IsNumeral t negative digits := by
  rw [Option.eq_none_iff_forall_ne_some]
  constructor
  · exact fun h negative digits hnumeral =>
      h _ (numeral?_eq_some_iff.2 hnumeral)
  · exact fun h (negative, digits) heq =>
      h negative digits (numeral?_eq_some_iff.1 heq)

/-- A numeral has no letters. -/
theorem IsNumeral.isAlpha (h : IsNumeral t negative digits) :
    ∀ c ∈ t, c.isAlpha = false := by
  intro c hc
  rw [h.eq_append] at hc
  rcases List.mem_append.1 hc with hsign | hdigit
  · cases negative with
    | true =>
        rw [List.mem_singleton.1 hsign]
        decide
    | false => cases hsign
  · refine Bool.eq_false_iff.2 fun halpha => ?_
    have hnot := Text.isDigit_of_isAlpha halpha
    rw [h.isDigit c hdigit] at hnot
    cases hnot

/-- Case does not matter to what is a numeral. -/
theorem numeral?_congr {s t : Text}
    (h : s.map Char.toLower = t.map Char.toLower) :
    numeral? s = numeral? t := by
  cases ht : numeral? t with
  | some found =>
      have hletters := (numeral?_eq_some_iff.1 ht).isAlpha
      rw [Text.eq_of_toLower_eq hletters h, ht]
  | none =>
      cases hs : numeral? s with
      | none => rfl
      | some found =>
          have hletters := (numeral?_eq_some_iff.1 hs).isAlpha
          rw [Text.eq_of_toLower_eq hletters h.symm, hs] at ht
          cases ht

/-- No word is a numeral. -/
theorem numeral?_of_isWord (h : t.IsWord) : numeral? t = none := by
  obtain ⟨hne, hletters⟩ := h
  refine numeral?_eq_none_iff.2 fun negative digits hnumeral => ?_
  obtain ⟨c, hc⟩ := List.exists_mem_of_ne_nil t hne
  have hnot := hnumeral.isAlpha c hc
  rw [hletters c hc] at hnot
  cases hnot

/-- The numeral of an integer is one, and its digits are those of the
integer's size. -/
theorem numeral?_ofInt (n : Int) :
    numeral? (Text.ofInt n)
      = some (decide (n < 0), Text.ofNat n.natAbs) := by
  refine numeral?_eq_some_iff.2
    ⟨?_, Nat.toDigits_ne_nil, fun c => Text.isDigit_of_mem_ofNat⟩
  cases n with
  | ofNat size => rfl
  | negSucc size =>
      rw [decide_eq_true (Int.negSucc_lt_zero size)]
      rfl

end Numerals

end Logline
