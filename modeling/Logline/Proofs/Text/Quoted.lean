/-
Quoted texts are read back. A reader goes from character to character of
a quoted text, escapes included, and stops at the mark that the text
starts with. It needs nothing but the text itself, not even its end, so
no two texts are quoted alike, whatever stands behind them
(`readQuoted?_quoted`, `quoted_injective`).

There are four ways in which a character can stand in a quoted text
(`Stands`), and three things are said of each: the reader gets the
character back, whatever follows it (`readCharacter?_of_stands`); it does
not look like the end of the text (`Stands.head_ne_mark`); and it has no
line break (`Stands.newline_not_mem`), so a quoted text is on one line.
-/
import Logline.Text.Quoted
import Logline.Value.Json
import Mathlib.Algebra.Group.Nat.Defs
import Mathlib.Logic.Function.Defs

namespace Logline.Text

-- ================================================ hexadecimal numerals

/-- The value of a text of hexadecimal digits. -/
def hexNumber? (t : Text) : Option Nat :=
  t.foldlM (fun n c => (Value.hexValue? c).map (16 * n + ·)) 0

section Hexadecimal

variable {width n : Nat}

theorem hexNumber?_snoc (t : Text) (c : Char) :
    hexNumber? (t ++ [c])
      = (hexNumber? t).bind fun n => (Value.hexValue? c).map (16 * n + ·) := by
  unfold hexNumber?
  rw [List.foldlM_append]
  refine bind_congr fun n => ?_
  rw [List.foldlM_cons]
  cases Value.hexValue? c <;> rfl

theorem hexValue?_digitChar {d : Nat} (h : d < 16) :
    Value.hexValue? (Nat.digitChar d) = some d := by
  revert d
  decide

/-- A number is read back from its hexadecimal digits. -/
theorem hexNumber?_toDigits (n : Nat) :
    hexNumber? (Nat.toDigits 16 n) = some n := by
  induction n using Nat.strongRecOn with
  | ind n ih =>
      by_cases h : n < 16
      · rw [Nat.toDigits_of_lt_base h]
        show hexNumber? ([] ++ [Nat.digitChar n]) = _
        rw [hexNumber?_snoc, hexValue?_digitChar h]
        show some (16 * 0 + n) = some n
        rw [Nat.mul_zero, Nat.zero_add]
      · have hlast : n % 16 < 16 := Nat.mod_lt n (by decide)
        rw [Nat.toDigits_of_base_le (by decide) (by omega), hexNumber?_snoc,
          ih (n / 16) (by omega), hexValue?_digitChar hlast]
        show some (16 * (n / 16) + n % 16) = some n
        rw [Nat.div_add_mod]

/-- Zeros in front do not count. -/
theorem hexNumber?_replicate_append (count : Nat) (t : Text) :
    hexNumber? (List.replicate count '0' ++ t) = hexNumber? t := by
  induction count with
  | zero => rfl
  | succ count ih => exact ih

theorem hexNumber?_hexPadded (width n : Nat) :
    hexNumber? (hexPadded width n) = some n := by
  unfold hexPadded List.leftpad
  rw [hexNumber?_replicate_append, hexNumber?_toDigits]

theorem length_hexPadded (hwidth : 0 < width) (h : n < 16 ^ width) :
    (hexPadded width n).length = width := by
  have hlength : (Nat.toDigits 16 n).length ≤ width :=
    (Nat.length_toDigits_le_iff (by decide) hwidth).2 h
  unfold hexPadded List.leftpad
  rw [List.length_append, List.length_replicate]
  omega

theorem exists_digitChar_of_mem_toDigits {c : Char}
    (h : c ∈ Nat.toDigits 16 n) : ∃ d < 16, c = Nat.digitChar d := by
  induction n using Nat.strongRecOn with
  | ind n ih =>
      by_cases hn : n < 16
      · rw [Nat.toDigits_of_lt_base hn, List.mem_singleton] at h
        exact ⟨n, hn, h⟩
      · rw [Nat.toDigits_of_base_le (by decide) (by omega)] at h
        rcases List.mem_append.1 h with hfront | hlast
        · exact ih (n / 16) (by omega) hfront
        · exact ⟨n % 16, Nat.mod_lt n (by decide),
            List.mem_singleton.1 hlast⟩

theorem newline_not_mem_hexPadded (width n : Nat) :
    '\n' ∉ hexPadded width n := by
  have hdigits : ∀ d < 16, Nat.digitChar d ≠ '\n' := by decide
  intro h
  rcases List.mem_append.1 h with hfill | hdigit
  · exact absurd (List.eq_of_mem_replicate hfill) (by decide)
  · obtain ⟨d, hd, heq⟩ := exists_digitChar_of_mem_toDigits hdigit
    exact hdigits d hd heq.symm

end Hexadecimal

-- ========================================================== the reader

/-- The characters that have a letter for an escape. -/
def letterEscapes : List (Char × Char) :=
  [('n', '\n'), ('t', '\t'), ('r', '\r')]

/-- The letters that come before a code point, and in how many digits. -/
def codeWidths : List (Char × Nat) :=
  [('x', 2), ('u', 4), ('U', 8)]

/-- Reads the character with a code point of so many digits. -/
def readCode? (width : Nat) (t : Text) : Option (Char × Text) := do
  let code ← hexNumber? (t.take width)
  if width ≤ t.length then some (Char.ofNat code, t.drop width) else none

/-- Reads an escape, behind its backslash. -/
def readEscape? : Text → Option (Char × Text)
  | [] => none
  | letter :: t =>
    match letterEscapes.lookup letter, codeWidths.lookup letter with
    | some c, _ => some (c, t)
    | none, some width => readCode? width t
    | none, none =>
      if letter ∈ ['\\', singleQuote, doubleQuote] then some (letter, t)
      else none

/-- Reads a character as it stands in a quoted text. -/
def readCharacter? : Text → Option (Char × Text)
  | [] => none
  | c :: t => if c = '\\' then readEscape? t else some (c, t)

/-- Reading an escape uses characters up. -/
theorem length_of_readEscape? {t rest : Text} {c : Char}
    (h : readEscape? t = some (c, rest)) : rest.length < t.length := by
  unfold readEscape? at h
  split at h
  · cases h
  · split at h
    · cases h
      exact Nat.lt_succ_self _
    · obtain ⟨code, -, h⟩ := Option.bind_eq_some_iff.1 h
      split at h
      · cases h
        rw [List.length_cons, List.length_drop]
        omega
      · cases h
    · split at h
      · cases h
        exact Nat.lt_succ_self _
      · cases h

theorem length_of_readCharacter? {t rest : Text} {c : Char}
    (h : readCharacter? t = some (c, rest)) : rest.length < t.length := by
  unfold readCharacter? at h
  split at h
  · cases h
  · split at h
    · exact Nat.lt_succ_of_lt (length_of_readEscape? h)
    · cases h
      exact Nat.lt_succ_self _

/-- Reads a text up to the mark that ends it: what it says, and what
stands behind the mark. -/
def readToMark? (mark : Char) (t : Text) : Option (Text × Text) :=
  if t.head? = some mark then some ([], t.tail)
  else
    match _h : readCharacter? t with
    | none => none
    | some (c, rest) =>
      (readToMark? mark rest).map fun (s, after) => (c :: s, after)
termination_by t.length
decreasing_by exact length_of_readCharacter? ‹_›

/-- Reads a quoted text: what it says, and what stands behind it. -/
def readQuoted? : Text → Option (Text × Text)
  | [] => none
  | mark :: t =>
    if mark ∈ [singleQuote, doubleQuote] then readToMark? mark t else none

-- ====================================================== one character

/-- The ways in which a character stands in a quoted text. -/
inductive Stands (mark c : Char) : Text → Prop where
  /-- For itself. -/
  | plain (hmark : c ≠ mark) (hslash : c ≠ '\\') (hbreak : c ≠ '\n') :
      Stands mark c [c]
  /-- Behind a backslash. -/
  | slashed (h : c = mark ∨ c = '\\') : Stands mark c ['\\', c]
  /-- As a letter behind a backslash. -/
  | lettered {letter : Char} (h : (letter, c) ∈ letterEscapes) :
      Stands mark c ['\\', letter]
  /-- As a code point that has room in its digits. -/
  | coded {letter : Char} {width : Nat}
      (h : (letter, width) ∈ codeWidths)
      (hroom : c.toNat < 16 ^ width) :
      Stands mark c ('\\' :: letter :: hexPadded width c.toNat)

section Character

variable {mark c : Char} {s : Text}

theorem stands_codeEscape (mark c : Char) :
    Stands mark c (codeEscape c.toNat) := by
  have hshort : ('x', 2) ∈ codeWidths := by decide
  have hmiddle : ('u', 4) ∈ codeWidths := by decide
  have hlong : ('U', 8) ∈ codeWidths := by decide
  unfold codeEscape
  split
  · next h => exact .coded hshort h
  · split
    · next h => exact .coded hmiddle h
    · exact .coded hlong (Nat.lt_of_lt_of_eq c.val.toNat_lt (by decide))

/-- A character that is escaped stands in one of the four ways. -/
theorem stands_escaped (mark c : Char) : Stands mark c (escaped mark c) := by
  have hletters : ∀ p ∈ letterEscapes, p.2 = c →
      Stands mark c ['\\', p.1] := by
    rintro ⟨letter, _⟩ h rfl
    exact .lettered h
  unfold escaped
  split
  · next h => exact .slashed (by simpa using h)
  · next h =>
    obtain ⟨hmark, hslash⟩ : c ≠ mark ∧ c ≠ '\\' := by simpa using h
    split
    · next h => exact hletters ('n', '\n') (by decide) h.symm
    · next hbreak =>
      split
      · next h => exact hletters ('t', '\t') (by decide) h.symm
      · split
        · next h => exact hletters ('r', '\r') (by decide) h.symm
        · split
          · exact .plain hmark hslash hbreak
          · exact stands_codeEscape mark c

/-- A character does not look like the end of the text. -/
theorem Stands.head_ne_mark (h : Stands mark c s) (hmark : mark ≠ '\\') :
    ∃ d t, s = d :: t ∧ d ≠ mark := by
  cases h with
  | plain hne => exact ⟨c, [], rfl, hne⟩
  | slashed => exact ⟨_, _, rfl, hmark.symm⟩
  | lettered => exact ⟨_, _, rfl, hmark.symm⟩
  | coded => exact ⟨_, _, rfl, hmark.symm⟩

/-- A character stands on one line. -/
theorem Stands.newline_not_mem (h : Stands mark c s) (hmark : mark ≠ '\n') :
    '\n' ∉ s := by
  have hletters : ∀ p ∈ letterEscapes, p.1 ≠ '\n' := by decide
  have hwidths : ∀ p ∈ codeWidths, p.1 ≠ '\n' := by decide
  have hslash : '\\' ≠ '\n' := by decide
  intro hmem
  cases h with
  | plain _ _ hbreak => exact hbreak (List.mem_singleton.1 hmem).symm
  | slashed h =>
      have hc : c ≠ '\n' := by
        rcases h with rfl | rfl
        · exact hmark
        · exact hslash
      simp [hslash.symm, hc.symm] at hmem
  | lettered h => simp [hslash.symm, (hletters _ h).symm] at hmem
  | coded h =>
      simp [hslash.symm, (hwidths _ h).symm,
        newline_not_mem_hexPadded] at hmem

theorem readCode?_hexPadded {width : Nat} (hwidth : 0 < width)
    (h : c.toNat < 16 ^ width) (rest : Text) :
    readCode? width (hexPadded width c.toNat ++ rest) = some (c, rest) := by
  have hlength := length_hexPadded hwidth h
  have hroom : width ≤ (hexPadded width c.toNat ++ rest).length := by
    rw [List.length_append]
    omega
  unfold readCode?
  rw [List.take_left' hlength, List.drop_left' hlength,
    hexNumber?_hexPadded]
  show (if _ then some (Char.ofNat c.toNat, rest) else none) = _
  rw [if_pos hroom, Char.ofNat_toNat]

/-- The reader gets back every character, whatever follows it. -/
theorem readCharacter?_of_stands (h : Stands mark c s)
    (hmark : mark ∈ [singleQuote, doubleQuote]) (rest : Text) :
    readCharacter? (s ++ rest) = some (c, rest) := by
  cases h with
  | plain _ hslash _ => exact if_neg hslash
  | slashed h =>
      have hself : c ∈ ['\\', singleQuote, doubleQuote] := by
        rcases h with rfl | rfl
        · exact List.mem_cons_of_mem _ hmark
        · exact List.mem_cons_self
      have hnone : letterEscapes.lookup c = none
          ∧ codeWidths.lookup c = none := by
        rcases List.mem_cons.1 hself with rfl | hquote
        · decide
        · rcases List.mem_cons.1 hquote with rfl | hquote
          · decide
          · obtain rfl := List.mem_singleton.1 hquote
            decide
      show readEscape? (c :: rest) = _
      simp only [readEscape?, hnone, if_pos hself]
  | @lettered letter h =>
      have hfound : ∀ p ∈ letterEscapes,
          letterEscapes.lookup p.1 = some p.2 := by decide
      show readEscape? (letter :: rest) = _
      simp only [readEscape?, hfound _ h]
  | @coded letter width h hroom =>
      have hfound : ∀ p ∈ codeWidths, letterEscapes.lookup p.1 = none
          ∧ codeWidths.lookup p.1 = some p.2 ∧ 0 < p.2 := by decide
      obtain ⟨hletter, hcode, hwidth⟩ := hfound _ h
      show readEscape? (letter :: (hexPadded width c.toNat ++ rest)) = _
      simp only [readEscape?, hletter, hcode]
      exact readCode?_hexPadded hwidth hroom rest

end Character

-- ========================================================= whole texts

theorem quoteMark_mem (t : Text) :
    quoteMark t ∈ [singleQuote, doubleQuote] := by
  unfold quoteMark
  split
  · exact List.mem_cons_of_mem _ List.mem_cons_self
  · exact List.mem_cons_self

theorem ne_of_mem_marks {mark : Char}
    (h : mark ∈ [singleQuote, doubleQuote]) : mark ≠ '\\' ∧ mark ≠ '\n' := by
  rcases List.mem_cons.1 h with rfl | h
  · decide
  · obtain rfl := List.mem_singleton.1 h
    decide

/-- An escaped text is read back up to the mark behind it. -/
theorem readToMark?_escaped {mark : Char}
    (hmark : mark ∈ [singleQuote, doubleQuote]) (t rest : Text) :
    readToMark? mark (t.flatMap (escaped mark) ++ mark :: rest)
      = some (t, rest) := by
  have hslash := (ne_of_mem_marks hmark).1
  induction t with
  | nil =>
      unfold readToMark?
      exact if_pos rfl
  | cons c t ih =>
      have hstands := stands_escaped mark c
      obtain ⟨d, s, hs, hd⟩ := hstands.head_ne_mark hslash
      have hread := readCharacter?_of_stands hstands hmark
        (t.flatMap (escaped mark) ++ mark :: rest)
      rw [List.flatMap_cons, List.append_assoc]
      have hhead : (escaped mark c ++
          (t.flatMap (escaped mark) ++ mark :: rest)).head? ≠ some mark := by
        rw [hs]
        exact fun heq => hd (Option.some.inj heq)
      unfold readToMark?
      rw [if_neg hhead]
      split
      · next hnone => cases hnone.symm.trans hread
      · next found hfound =>
        cases hfound.symm.trans hread
        rw [ih]
        rfl

/-- A quoted text is read back, whatever stands behind it. -/
theorem readQuoted?_quoted (t rest : Text) :
    readQuoted? (quoted t ++ rest) = some (t, rest) := by
  have hmark := quoteMark_mem t
  show readQuoted? (quoteMark t ::
    (t.flatMap (escaped (quoteMark t)) ++ [quoteMark t] ++ rest)) = _
  rw [List.append_assoc]
  exact (if_pos hmark).trans (readToMark?_escaped hmark t rest)

/-- No two texts are quoted alike. -/
theorem quoted_injective : Function.Injective quoted := by
  intro s t h
  have hs := readQuoted?_quoted s []
  rw [h, readQuoted?_quoted] at hs
  cases hs
  rfl

/-- A quoted text stands on one line. -/
theorem newline_not_mem_quoted (t : Text) : '\n' ∉ quoted t := by
  have hmark := (ne_of_mem_marks (quoteMark_mem t)).2
  intro h
  rcases List.mem_append.1 h with h | h
  · rcases List.mem_cons.1 h with h | h
    · exact hmark h.symm
    · obtain ⟨c, -, hc⟩ := List.mem_flatMap.1 h
      exact (stands_escaped _ c).newline_not_mem hmark hc
  · exact hmark (List.mem_singleton.1 h).symm

end Logline.Text
