/-
Columns of numerals. Texts are compared character by character, numbers
by their size, and the two have little to do with each other: `10` is a
smaller text than `9`. They agree where numbers are written in columns,
each filled with zeros to its width and with the same text behind it in
every row. Then one row is smaller than another exactly when its numbers
are, the first column counting first (`inColumns_lt_iff`).

The reason is that a column ends at the same place in every row, so what
stands in the columns before it decides first (`append_lt_append_iff`).
Inside a column the same is said of the digits.
-/
import Logline.Proofs.Text.Numeral

namespace Logline.Text

-- =========================================================== lists

section Lists

variable {α : Type} [LT α]

/-- Of lists whose first parts are equally long, the first parts decide
first. -/
theorem append_lt_append_iff {s s' : List α} (h : s.length = s'.length)
    (t t' : List α) : s ++ t < s' ++ t' ↔ s < s' ∨ s = s' ∧ t < t' := by
  induction s generalizing s' with
  | nil =>
      obtain rfl := List.eq_nil_of_length_eq_zero h.symm
      simp
  | cons c s ih =>
      obtain ⟨c', s', rfl⟩ : ∃ c' rest, s' = c' :: rest :=
        List.exists_cons_of_length_eq_add_one h.symm
      have hrest := ih (Nat.succ.inj h)
      simp only [List.cons_append, List.cons_lt_cons_iff, hrest,
        List.cons.injEq]
      constructor
      · rintro (hc | ⟨hc, hs | ⟨hs, ht⟩⟩)
        · exact .inl (.inl hc)
        · exact .inl (.inr ⟨hc, hs⟩)
        · exact .inr ⟨⟨hc, hs⟩, ht⟩
      · rintro ((hc | ⟨hc, hs⟩) | ⟨⟨hc, hs⟩, ht⟩)
        · exact .inl hc
        · exact .inr ⟨hc, .inl hs⟩
        · exact .inr ⟨hc, .inr ⟨hs, ht⟩⟩

theorem append_lt_append_left_iff [Std.Irrefl fun a b : α => a < b]
    (s t t' : List α) : s ++ t < s ++ t' ↔ t < t' := by
  rw [append_lt_append_iff rfl]
  constructor
  · rintro (h | ⟨-, h⟩)
    · exact absurd h (List.lt_irrefl s)
    · exact h
  · intro h
    exact .inr ⟨rfl, h⟩

end Lists

-- ======================================================== one column

section Numerals

variable {places n m : Nat}

theorem digitChar_lt_iff (hn : n < 10) (hm : m < 10) :
    Nat.digitChar n < Nat.digitChar m ↔ n < m := by
  have hall : ∀ n < 10, ∀ m < 10,
      (Nat.digitChar n < Nat.digitChar m ↔ n < m) := by decide
  exact hall n hn m hm

theorem zeroPadded_eq_iff : zeroPadded places n = zeroPadded places m
    ↔ n = m := by
  constructor
  · intro h
    rw [← toNat_zeroPadded places n, h, toNat_zeroPadded]
  · rintro rfl
    rfl

/-- Numbers with room in the same places are written in their order. -/
theorem zeroPadded_lt_iff (hplaces : 0 < places) (hn : n < 10 ^ places)
    (hm : m < 10 ^ places) :
    zeroPadded places n < zeroPadded places m ↔ n < m := by
  have hone : ∀ k < 10, zeroPadded 1 k = [Nat.digitChar k] := by decide
  induction places generalizing n m with
  | zero => cases hplaces
  | succ places ih =>
      by_cases hlast : places = 0
      · subst hlast
        rw [hone n hn, hone m hm, List.cons_lt_cons_iff,
          digitChar_lt_iff hn hm]
        simp
      · have hpos := Nat.pos_of_ne_zero hlast
        rw [Nat.pow_succ] at hn hm
        have hn' : n / 10 < 10 ^ places := by omega
        have hm' : m / 10 < 10 ^ places := by omega
        have hlength : (zeroPadded places (n / 10)).length
            = (zeroPadded places (m / 10)).length := by
          rw [length_zeroPadded_of_lt hpos hn',
            length_zeroPadded_of_lt hpos hm']
        have hfront : zeroPadded places (n / 10) < zeroPadded places (m / 10)
            ↔ n / 10 < m / 10 := ih hpos hn' hm'
        have hdigit := digitChar_lt_iff (Nat.mod_lt n (by decide : 0 < 10))
          (Nat.mod_lt m (by decide : 0 < 10))
        rw [zeroPadded_succ hpos, zeroPadded_succ hpos,
          append_lt_append_iff hlength, hfront, zeroPadded_eq_iff,
          List.cons_lt_cons_iff, hdigit]
        simp only [List.lt_irrefl, and_false, or_false]
        omega

end Numerals

-- ===================================================== rows of columns

/-- A column of numerals: its width, and the text behind it. -/
structure Column where
  width : Nat
  behind : Text

/-- A row of numbers in columns. -/
def inColumns : List Column → List Nat → Text
  | column :: columns, n :: row =>
    zeroPadded column.width n ++ (column.behind ++ inColumns columns row)
  | _, _ => []

/-- Has every number of a row room in its column? -/
inductive Fits : List Column → List Nat → Prop
  | nil : Fits [] []
  | cons {column : Column} {columns : List Column} {n : Nat}
      {row : List Nat} (hwidth : 0 < column.width)
      (hn : n < 10 ^ column.width) (hrow : Fits columns row) :
      Fits (column :: columns) (n :: row)

section Rows

variable {columns : List Column} {row row' : List Nat}

/-- Rows in the same columns are equally long. -/
theorem length_inColumns_eq (h : Fits columns row)
    (h' : Fits columns row') :
    (inColumns columns row).length = (inColumns columns row').length := by
  induction h generalizing row' with
  | nil =>
      cases h'
      rfl
  | cons hwidth hn hrow ih =>
      cases h' with
      | cons _ hn' hrow' =>
          simp only [inColumns, List.length_append, ih hrow',
            length_zeroPadded_of_lt hwidth hn,
            length_zeroPadded_of_lt hwidth hn']

/-- Rows in columns are in the order of their numbers. -/
theorem inColumns_lt_iff (h : Fits columns row) (h' : Fits columns row') :
    inColumns columns row < inColumns columns row' ↔ row < row' := by
  induction h generalizing row' with
  | nil =>
      cases h'
      simp [inColumns]
  | cons hwidth hn hrow ih =>
      cases h' with
      | cons _ hn' hrow' =>
          have hlength := (length_zeroPadded_of_lt hwidth hn).trans
            (length_zeroPadded_of_lt hwidth hn').symm
          rw [inColumns, inColumns, append_lt_append_iff hlength,
            append_lt_append_left_iff, zeroPadded_lt_iff hwidth hn hn',
            zeroPadded_eq_iff, ih hrow', List.cons_lt_cons_iff]

/-- Columns tell their row. -/
theorem inColumns_inj (h : Fits columns row) (h' : Fits columns row')
    (heq : inColumns columns row = inColumns columns row') : row = row' := by
  induction h generalizing row' with
  | nil =>
      cases h'
      rfl
  | cons hwidth hn hrow ih =>
      cases h' with
      | cons _ hn' hrow' =>
          have hlength := (length_zeroPadded_of_lt hwidth hn).trans
            (length_zeroPadded_of_lt hwidth hn').symm
          obtain ⟨hnumeral, hrest⟩ := List.append_inj heq hlength
          rw [zeroPadded_eq_iff.1 hnumeral,
            ih hrow' (List.append_cancel_left hrest)]

/-- Rows are made of digits and of what stands behind the columns. -/
theorem isDigit_or_mem_of_mem_inColumns {c : Char}
    (h : c ∈ inColumns columns row) :
    c.isDigit = true ∨ ∃ column ∈ columns, c ∈ column.behind := by
  induction columns, row using inColumns.induct with
  | case1 column columns n row ih =>
      rw [inColumns, List.mem_append, List.mem_append] at h
      rcases h with hnumeral | hbehind | hrest
      · exact .inl (isDigit_of_mem_zeroPadded hnumeral)
      · exact .inr ⟨column, List.mem_cons_self, hbehind⟩
      · rcases ih hrest with hdigit | ⟨other, hmem, hc⟩
        · exact .inl hdigit
        · exact .inr ⟨other, List.mem_cons_of_mem _ hmem, hc⟩
  | case2 columns row hne =>
      rw [inColumns.eq_2 _ _ hne] at h
      cases h

end Rows

end Logline.Text
