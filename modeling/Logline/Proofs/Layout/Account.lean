/-
What a scanner holds at every point of a scan: an account of the
characters behind it.

# The account

The pieces of a scanner lag behind its position, and what they lack is
*pending*. In the text state that is the run from `start` on, with its
percent signs doubled; and only its first character can be one, the second
of a pair, because any other would have ended the run. Between a percent
sign and the end of its placeholder it is what has been seen of the
placeholder. `Accounts` says that the pieces, written back, and the pending
text are together the characters read so far, that the pieces are in
normal form, and where `start` stands. After a percent sign `start` is left
over from the run before and stands for nothing: every way on sets it anew.

# From one step to a scan

That a step keeps the account (`Accounts.step`) and only adds to the pieces
(`growsTo_of_step`) are case analyses over moves. What holds all along a
scan follows by induction on the number of its steps.

# A scan of a part

The first steps over a layout are the scan of its first characters alone
(`after_eq_run_take`). So they depend on nothing behind these characters,
and they succeed exactly if some layout begins with them.
-/
import Logline.Proofs.Layout.Grammar

namespace Logline.Layout

-- ======================================================= growing lists

/-- The pieces of one list stay at the front of another. Only a literal
that ends the first may be longer in the second. -/
inductive GrowsTo : List Piece → List Piece → Prop where
  | added (more : List Piece) : GrowsTo [] more
  | lengthened (s t : Text) (more : List Piece) :
    GrowsTo [⟨.text, s⟩] (⟨.text, s ++ t⟩ :: more)
  | cons (p : Piece) {pieces longer : List Piece} :
    GrowsTo pieces longer → GrowsTo (p :: pieces) (p :: longer)

namespace GrowsTo

theorem append_left (before : List Piece) {pieces longer : List Piece}
    (h : GrowsTo pieces longer) :
    GrowsTo (before ++ pieces) (before ++ longer) := by
  induction before with
  | nil => exact h
  | cons p before ih => exact .cons p ih

/-- A list grows by pieces behind it. -/
theorem append (pieces more : List Piece) :
    GrowsTo pieces (pieces ++ more) := by
  have h := append_left pieces (.added more)
  rw [List.append_nil] at h
  exact h

theorem refl (pieces : List Piece) : GrowsTo pieces pieces := by
  have h := append pieces []
  rw [List.append_nil] at h
  exact h

/-- A list grows by text at its end. -/
theorem addText (pieces : List Piece) (t : Text) :
    GrowsTo pieces (addText pieces t) := by
  by_cases hend : EndsInText pieces
  · obtain ⟨before, s, rfl⟩ := hend
    rw [addText_snoc]
    exact append_left before (.lengthened s t [])
  · by_cases ht : t = []
    · rw [ht, addText_nil]
      exact refl pieces
    · rw [addText_of_not_endsInText hend ht]
      exact append pieces _

/-- Growing twice is growing once. -/
theorem trans {pieces longer longest : List Piece}
    (h : GrowsTo pieces longer) (h' : GrowsTo longer longest) :
    GrowsTo pieces longest := by
  induction h generalizing longest with
  | added more => exact .added longest
  | lengthened s t more =>
      cases h' with
      | lengthened _ t' more' =>
          rw [List.append_assoc]
          exact .lengthened s (t ++ t') more'
      | cons _ _ => exact .lengthened s t _
  | cons p h ih =>
      cases h' with
      | lengthened s t more =>
          cases h
          exact .lengthened s t more
      | cons _ h' => exact .cons p (ih h')

end GrowsTo

namespace Scanner

/-- A step only adds to the pieces, wherever it is taken. -/
theorem growsTo_of_step {s s' : Scanner} {layout : Text} {i : Int}
    (h : s.step layout i = .ok s') : GrowsTo s.pieces s'.pieces := by
  obtain ⟨c, -, hmove⟩ := step_eq_ok_iff.1 h
  cases hmove with
  | plain hc => exact .refl _
  | percent => exact .addText _ _
  | pair => exact .refl _
  | field f => exact .append _ _
  | date => exact .refl _
  | opening => exact .refl _
  | inside hc => exact .refl _
  | closing => exact .append _ _

-- ========================================================= the account

/-- What the pieces lack of the first `n` characters, as the layout has
it. -/
def pending (s : Scanner) (layout : Text) (n : Nat) : Text :=
  match s.state with
  | .text => doubled (slice layout s.start n)
  | .afterPercent => ['%']
  | .expectBrace => ['%', 'd']
  | .insidePattern => '%' :: 'd' :: '\x7b' :: slice layout s.start n

/-- Does the pending run start where the state has it? A run of literal
text has no percent sign but in front, and a date pattern, which has a
placeholder's three characters before it, no closing brace. No run starts
below zero, where its start would count from the end of the layout. -/
def WellPlaced (s : Scanner) (layout : Text) (n : Nat) : Prop :=
  match s.state with
  | .text => 0 ≤ s.start ∧ s.start ≤ n ∧ '%' ∉ (slice layout s.start n).tail
  | .afterPercent => True
  | .expectBrace => s.start = n
  | .insidePattern =>
    3 ≤ s.start ∧ s.start ≤ n ∧ '\x7d' ∉ slice layout s.start n

/-- Does the scanner account for the first `n` characters of a layout? -/
structure Accounts (s : Scanner) (layout : Text) (n : Nat) : Prop where
  normal : NormalForm s.pieces
  written : unparse s.pieces ++ s.pending layout n = layout.take n
  placed : s.WellPlaced layout n

section Runs

variable {layout : Text} {n : Nat} {c : Char} {start : Int}

/-- One more character is read. -/
private theorem take_snoc (hc : layout[n]? = some c) :
    layout.take (n + 1) = layout.take n ++ [c] := by
  rw [List.take_add_one, hc]
  rfl

/-- Where a run starts there is nothing of it yet. -/
private theorem slice_self (layout : Text) (n : Nat) :
    slice layout n n = [] := by
  rw [slice_natCast]
  exact List.drop_take_self

/-- A run that has started grows by the character read. -/
private theorem slice_snoc (hc : layout[n]? = some c)
    (hstart : 0 ≤ start) (hle : start ≤ n) :
    slice layout start (n + 1 : Nat) = slice layout start n ++ [c] := by
  obtain ⟨k, rfl⟩ := Int.eq_ofNat_of_zero_le hstart
  have hn : n < layout.length := (List.getElem?_eq_some_iff.1 hc).1
  have hk : k ≤ (layout.take n).length := by
    rw [List.length_take]
    omega
  rw [slice_natCast, slice_natCast, take_snoc hc,
    List.drop_append_of_le_length hk]

/-- An ordinary character at its end leaves a run without percent signs
behind the first character. -/
private theorem not_mem_tail_snoc {t : Text} (ht : '%' ∉ t.tail)
    (hc : c ≠ '%') : '%' ∉ (t ++ [c]).tail := by
  cases t with
  | nil => exact List.not_mem_nil
  | cons first rest =>
      show '%' ∉ rest ++ [c]
      rw [List.mem_append, List.mem_singleton, not_or]
      exact ⟨ht, hc.symm⟩

end Runs

namespace Accounts

variable {layout : Text} {n : Nat} {c : Char} {start : Int}
  {pieces : List Piece}

/-- Where a run starts the pieces are the whole account. -/
theorem fresh (hnormal : NormalForm pieces)
    (hwritten : unparse pieces = layout.take n) :
    Accounts ⟨.text, n, pieces⟩ layout n := by
  have hself := slice_self layout n
  refine ⟨hnormal, ?_, Int.natCast_nonneg n, Int.le_refl n, ?_⟩
  · show unparse pieces ++ doubled (slice layout n n) = _
    rw [hself, ← hwritten]
    exact List.append_nil _
  · show '%' ∉ (slice layout n n).tail
    rw [hself]
    exact List.not_mem_nil

theorem zero (layout : Text) : Accounts {} layout 0 :=
  fresh normalForm_nil List.take_zero.symm

/-- The run grows by the character, which is no percent sign. -/
theorem plain (h : Accounts ⟨.text, start, pieces⟩ layout n)
    (hc : layout[n]? = some c) (hplain : c ≠ '%') :
    Accounts ⟨.text, start, pieces⟩ layout (n + 1) := by
  obtain ⟨hnormal, hwritten, hnonneg, hle, htail⟩ := h
  have hrun := slice_snoc hc hnonneg hle
  refine ⟨hnormal, ?_, hnonneg, ?_, ?_⟩
  · show unparse pieces ++ doubled (slice layout start (n + 1 : Nat)) = _
    rw [hrun, doubled_append, doubled_singleton hplain, take_snoc hc,
      ← hwritten, ← List.append_assoc]
    rfl
  · exact Int.le_trans hle (Int.ofNat_le.2 (Nat.le_succ n))
  · show '%' ∉ (slice layout start (n + 1 : Nat)).tail
    rw [hrun]
    exact not_mem_tail_snoc htail hplain

/-- The run goes over to the pieces. -/
theorem percent (h : Accounts ⟨.text, start, pieces⟩ layout n)
    (hc : layout[n]? = some '%') :
    Accounts ⟨.afterPercent, start, addText pieces (slice layout start n)⟩
      layout (n + 1) := by
  refine ⟨normalForm_addText h.normal _, ?_, trivial⟩
  show unparse (addText pieces (slice layout start n)) ++ ['%'] = _
  rw [unparse_addText, take_snoc hc, ← h.written]
  rfl

/-- The run of the second percent sign stands for both. -/
theorem pair (h : Accounts ⟨.afterPercent, start, pieces⟩ layout n)
    (hc : layout[n]? = some '%') :
    Accounts ⟨.text, n, pieces⟩ layout (n + 1) := by
  have hle := Int.ofNat_le.2 (Nat.le_succ n)
  have hrun : slice layout n (n + 1 : Nat) = ['%'] := by
    rw [slice_snoc hc (Int.natCast_nonneg n) (Int.le_refl n), slice_self]
    rfl
  refine ⟨h.normal, ?_, Int.natCast_nonneg n, hle, ?_⟩
  · show unparse pieces ++ doubled (slice layout n (n + 1 : Nat)) = _
    rw [hrun, take_snoc hc, ← h.written, List.append_assoc]
    rfl
  · show '%' ∉ (slice layout n (n + 1 : Nat)).tail
    rw [hrun]
    exact List.not_mem_nil

theorem field (h : Accounts ⟨.afterPercent, start, pieces⟩ layout n)
    {f : Field} (hc : layout[n]? = some f.letter) :
    Accounts ⟨.text, n + 1, addPlaceholder pieces f.kind []⟩ layout
      (n + 1) := by
  have hpiece : Piece.WellFormed ⟨f.kind, []⟩ := by cases f <;> rfl
  have hspelling : Piece.spelling ⟨f.kind, []⟩ = ['%', f.letter] := by
    cases f <;> rfl
  refine fresh (normalForm_addPlaceholder h.normal f.kind_ne_text hpiece) ?_
  rw [unparse_addPlaceholder, hspelling, take_snoc hc, ← h.written,
    List.append_assoc]
  rfl

theorem date (h : Accounts ⟨.afterPercent, start, pieces⟩ layout n)
    (hc : layout[n]? = some 'd') :
    Accounts ⟨.expectBrace, n + 1, pieces⟩ layout (n + 1) := by
  refine ⟨h.normal, ?_, rfl⟩
  show unparse pieces ++ ['%', 'd'] = _
  rw [take_snoc hc, ← h.written, List.append_assoc]
  rfl

/-- The pattern starts behind the three characters of its placeholder. -/
theorem opening (h : Accounts ⟨.expectBrace, start, pieces⟩ layout n)
    (hc : layout[n]? = some '\x7b') :
    Accounts ⟨.insidePattern, n + 1, pieces⟩ layout (n + 1) := by
  have hself := slice_self layout (n + 1)
  -- The account has the two characters of `%d`, so they have been read.
  have htwo : 2 ≤ n := by
    have hlength := congrArg List.length h.written
    rw [List.length_append, List.length_take] at hlength
    change _ + 2 = _ at hlength
    omega
  refine ⟨h.normal, ?_, ?_, Int.le_refl _, ?_⟩
  · show unparse pieces ++
      '%' :: 'd' :: '\x7b' :: slice layout (n + 1 : Nat) (n + 1 : Nat) = _
    rw [hself, take_snoc hc, ← h.written, List.append_assoc]
    rfl
  · exact Int.ofNat_le.2 (Nat.succ_le_succ htwo)
  · show '\x7d' ∉ slice layout (n + 1 : Nat) (n + 1 : Nat)
    rw [hself]
    exact List.not_mem_nil

/-- The pattern grows by the character, which is no closing brace. -/
theorem inside (h : Accounts ⟨.insidePattern, start, pieces⟩ layout n)
    (hc : layout[n]? = some c) (hinside : c ≠ '\x7d') :
    Accounts ⟨.insidePattern, start, pieces⟩ layout (n + 1) := by
  obtain ⟨hnormal, hwritten, hthree, hle, hopen⟩ := h
  have hnonneg : 0 ≤ start := Int.le_trans (by decide) hthree
  have hrun := slice_snoc hc hnonneg hle
  refine ⟨hnormal, ?_, hthree, ?_, ?_⟩
  · show unparse pieces ++
      '%' :: 'd' :: '\x7b' :: slice layout start (n + 1 : Nat) = _
    rw [hrun, take_snoc hc, ← hwritten, List.append_assoc]
    rfl
  · exact Int.le_trans hle (Int.ofNat_le.2 (Nat.le_succ n))
  · show '\x7d' ∉ slice layout start (n + 1 : Nat)
    rw [hrun, List.mem_append, List.mem_singleton, not_or]
    exact ⟨hopen, hinside.symm⟩

/-- The pattern goes over to the pieces. -/
theorem closing (h : Accounts ⟨.insidePattern, start, pieces⟩ layout n)
    (hc : layout[n]? = some '\x7d') :
    Accounts ⟨.text, n + 1,
      addPlaceholder pieces .timestamp (slice layout start n)⟩ layout
      (n + 1) := by
  obtain ⟨hnormal, hwritten, -, -, hopen⟩ := h
  refine fresh (normalForm_addPlaceholder hnormal (nomatch ·) hopen) ?_
  rw [unparse_addPlaceholder, take_snoc hc, ← hwritten, List.append_assoc]
  rfl

/-- A move keeps the account, with the character moved over in it. -/
theorem move {s s' : Scanner} (h : s.Accounts layout n)
    (hc : layout[n]? = some c) (hmove : Move layout n s c s') :
    s'.Accounts layout (n + 1) := by
  cases hmove with
  | plain hplain => exact h.plain hc hplain
  | percent => exact h.percent hc
  | pair => exact h.pair hc
  | field f => exact h.field hc
  | date => exact h.date hc
  | opening => exact h.opening hc
  | inside hinside => exact h.inside hc hinside
  | closing => exact h.closing hc

/-- A step keeps the account. -/
theorem step {s s' : Scanner} (h : s.Accounts layout n)
    (hstep : s.step layout n = .ok s') : s'.Accounts layout (n + 1) := by
  obtain ⟨c, hc, hmove⟩ := step_eq_ok_iff.1 hstep
  rw [charAt?_natCast] at hc
  exact h.move hc hmove

end Accounts

-- ===================================================== the first steps

/-- The scanner after the first steps over a layout, one at each position
from the first. -/
def after (layout : Text) : Nat → Except StepError Scanner
  | 0 => .ok {}
  | n + 1 => do
    let s ← after layout n
    s.step layout n

variable {layout : Text} {n : Nat} {s : Scanner}

theorem after_succ_eq_ok_iff {s' : Scanner} :
    after layout (n + 1) = .ok s'
      ↔ ∃ s, after layout n = .ok s ∧ s.step layout n = .ok s' :=
  bind_eq_ok_iff

/-- The scanner accounts for the characters that it has stepped over. -/
theorem accounts_of_after (h : after layout n = .ok s) :
    s.Accounts layout n := by
  induction n generalizing s with
  | zero =>
      cases h
      exact .zero layout
  | succ n ih =>
      obtain ⟨before, hbefore, hstep⟩ := after_succ_eq_ok_iff.1 h
      exact (ih hbefore).step hstep

/-- Between two points of a scan the pieces only grow. -/
theorem growsTo_of_after {m : Nat} {s' : Scanner}
    (h : after layout m = .ok s) (hmn : m ≤ n)
    (h' : after layout n = .ok s') : GrowsTo s.pieces s'.pieces := by
  induction n, hmn using Nat.le_induction generalizing s' with
  | base =>
      rw [h] at h'
      cases h'
      exact .refl _
  | succ n hmn ih =>
      obtain ⟨before, hbefore, hstep⟩ := after_succ_eq_ok_iff.1 h'
      exact (ih hbefore).trans (growsTo_of_step hstep)

/-- No step is taken beyond the end. -/
theorem le_length_of_after (h : after layout n = .ok s) :
    n ≤ layout.length := by
  cases n with
  | zero => exact Nat.zero_le _
  | succ n =>
      obtain ⟨before, -, hstep⟩ := after_succ_eq_ok_iff.1 h
      obtain ⟨c, hc, -⟩ := step_eq_ok_iff.1 hstep
      rw [charAt?_natCast] at hc
      exact (List.getElem?_eq_some_iff.1 hc).1

-- ==================================================== a scan of a part

/-- The first steps over a layout are the scan of its first characters
alone. -/
theorem after_eq_run_take (hn : n ≤ layout.length) :
    after layout n = (run (layout.take n)).mapError .fault := by
  induction n with
  | zero =>
      rw [List.take_zero]
      rfl
  | succ n ih =>
      have hc := List.getElem?_eq_getElem hn
      have hlen : (layout.take n).length = n :=
        List.length_take_of_le (Nat.le_of_succ_le hn)
      rw [after, ih (Nat.le_of_succ_le hn), take_snoc hc]
      cases hrun : run (layout.take n) with
      | error fault =>
          rw [run_append_of_error hrun]
          rfl
      | ok s =>
          -- The step on the whole layout is the one on its part.
          have hadvance := advance_append (start_nonneg_of_run hrun) hlen.ge
            (layout.drop n) layout[n]
          rw [List.take_append_drop] at hadvance
          rw [run_snoc hrun, hlen, ← hadvance]
          show s.step layout n = _
          rw [Scanner.step, charAt?_natCast, hc]

/-- Nothing behind the characters stepped over makes a difference. -/
theorem after_congr {other : Text} (h : after layout n = .ok s)
    (hother : other.take n = layout.take n) : after other n = .ok s := by
  have hn := le_length_of_after h
  have hlen : n ≤ other.length := by
    have hlength := congrArg List.length hother
    rw [List.length_take, List.length_take] at hlength
    omega
  rw [after_eq_run_take hlen, hother, ← after_eq_run_take hn, h]

/-- A scan goes well exactly over the texts that some layout begins
with. -/
theorem exists_run_iff {t : Text} : (∃ s, run t = .ok s) ↔ Viable t := by
  constructor
  · rintro ⟨⟨state, start, pieces⟩, hrun⟩
    have hcompile := compile_of_run_ok hrun
    cases state with
    | text =>
        have hgrammatical := exists_compile_iff.1 ⟨_, hcompile⟩
        exact ⟨t, hgrammatical, List.prefix_refl t⟩
    | afterPercent | expectBrace | insidePattern =>
        obtain ⟨-, -, longer, hgrammatical, hprefix, -⟩ :=
          of_error_at_end hcompile rfl
        exact ⟨longer, hgrammatical, hprefix⟩
  · rintro ⟨longer, hgrammatical, rest, rfl⟩
    obtain ⟨template, hcompile⟩ := exists_compile_iff.2 hgrammatical
    cases hrun : run t with
    | ok s => exact ⟨s, rfl⟩
    | error fault =>
        rw [compile_of_run_error (run_append_of_error hrun rest)] at hcompile
        cases hcompile

/-- The first steps succeed exactly if there are as many characters and
some layout begins with them. -/
theorem exists_after_iff :
    (∃ s, after layout n = .ok s)
      ↔ n ≤ layout.length ∧ Viable (layout.take n) := by
  constructor
  · rintro ⟨s, h⟩
    have hn := le_length_of_after h
    rw [after_eq_run_take hn, mapError_eq_ok_iff] at h
    exact ⟨hn, exists_run_iff.1 ⟨s, h⟩⟩
  · rintro ⟨hn, hviable⟩
    obtain ⟨s, hrun⟩ := exists_run_iff.2 hviable
    refine ⟨s, ?_⟩
    rw [after_eq_run_take hn, hrun]
    rfl

/-- What the first steps over a layout leave. They succeed exactly as far
as the text is viable, whatever stands behind; the scanner then accounts
for the characters behind it. Any step keeps such an account, and no step
takes anything from the pieces, nor does any number of steps. -/
theorem after_exact :
    (∀ (layout : Text) (n : Nat),
        ((∃ s, after layout n = .ok s)
            ↔ n ≤ layout.length ∧ Viable (layout.take n))
          ∧ ∀ s, after layout n = .ok s →
            (∀ other : Text, other.take n = layout.take n →
              after other n = .ok s)
            ∧ s.Accounts layout n)
      ∧ (∀ (layout : Text) (n : Nat) (s s' : Scanner),
        s.Accounts layout n → s.step layout n = .ok s' →
          s'.Accounts layout (n + 1))
      ∧ (∀ (layout : Text) (i : Int) (s s' : Scanner),
        s.step layout i = .ok s' → GrowsTo s.pieces s'.pieces)
      ∧ ∀ (layout : Text) (m n : Nat) (s s' : Scanner), m ≤ n →
        after layout m = .ok s → after layout n = .ok s' →
          GrowsTo s.pieces s'.pieces := by
  refine ⟨fun layout n => ⟨exists_after_iff, ?_⟩, ?_, ?_, ?_⟩
  · intro s h
    exact ⟨fun other hother => after_congr h hother, accounts_of_after h⟩
  · intro layout n s s' h hstep
    exact h.step hstep
  · intro layout i s s' hstep
    exact growsTo_of_step hstep
  · intro layout m n s s' hmn h h'
    exact growsTo_of_after h hmn h'

/-- In the run of a doubled percent sign: the next step ends the run, and
the literal before the pair takes it up. -/
theorem after_exact_pair :
    after ['a', '%', '%', 'b', '%'] 4
        = .ok ⟨.text, 2, [⟨.text, ['a']⟩]⟩
      ∧ after ['a', '%', '%', 'b'] 4 = .ok ⟨.text, 2, [⟨.text, ['a']⟩]⟩
      ∧ Accounts ⟨.text, 2, [⟨.text, ['a']⟩]⟩ ['a', '%', '%', 'b', '%'] 4
      ∧ step ⟨.text, 2, [⟨.text, ['a']⟩]⟩ ['a', '%', '%', 'b', '%'] 4
        = .ok ⟨.afterPercent, 2, [⟨.text, ['a', '%', 'b']⟩]⟩
      ∧ Accounts ⟨.afterPercent, 2, [⟨.text, ['a', '%', 'b']⟩]⟩
        ['a', '%', '%', 'b', '%'] 5
      ∧ GrowsTo [⟨.text, ['a']⟩] [⟨.text, ['a', '%', 'b']⟩]
      ∧ GrowsTo [] [⟨.text, ['a', '%', 'b']⟩] := by
  have hone : after ['a', '%', '%', 'b', '%'] 1 = .ok {} := rfl
  have hfour : after ['a', '%', '%', 'b', '%'] 4
      = .ok ⟨.text, 2, [⟨.text, ['a']⟩]⟩ := rfl
  have hfive : after ['a', '%', '%', 'b', '%'] 5
      = .ok ⟨.afterPercent, 2, [⟨.text, ['a', '%', 'b']⟩]⟩ := rfl
  have hstep : step ⟨.text, 2, [⟨.text, ['a']⟩]⟩
      ['a', '%', '%', 'b', '%'] 4
      = .ok ⟨.afterPercent, 2, [⟨.text, ['a', '%', 'b']⟩]⟩ := rfl
  obtain ⟨hreached, hkept, hgrown, hgrownAll⟩ := after_exact
  obtain ⟨hsame, haccounts⟩ := (hreached _ 4).2 _ hfour
  exact ⟨hfour, hsame _ rfl, haccounts, hstep,
    hkept _ 4 _ _ haccounts hstep, hgrown _ 4 _ _ hstep,
    hgrownAll _ 1 5 _ _ (by decide) hone hfive⟩

end Scanner

end Logline.Layout
