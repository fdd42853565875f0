/-
What one step of the scanner can do, said once. A step over a character
that it allows is one of eight moves: literal text and date patterns go on
or end, a percent sign doubles another, and the placeholders are taken up
letter by letter. `advance_eq_ok_iff` says that these are all moves there
are, so whatever a step keeps is shown by cases over them.
-/
import Logline.Layout.Scanner
import Logline.Proofs.Chain
import Logline.Proofs.Layout.Atoms

namespace Logline.Layout

namespace Scanner

-- =========================================================== the moves

/-- The ways over a character that stands at position `i`. -/
inductive Move (layout : Text) (i : Int) :
    Scanner → Char → Scanner → Prop where
  /-- Literal text goes on. -/
  | plain {start : Int} {pieces : List Piece} {c : Char} (hc : c ≠ '%') :
    Move layout i ⟨.text, start, pieces⟩ c ⟨.text, start, pieces⟩
  /-- A percent sign ends the run, which becomes a piece. -/
  | percent {start : Int} {pieces : List Piece} :
    Move layout i ⟨.text, start, pieces⟩ '%'
      ⟨.afterPercent, start, addText pieces (slice layout start i)⟩
  /-- The second percent sign of a pair starts a run. -/
  | pair {start : Int} {pieces : List Piece} :
    Move layout i ⟨.afterPercent, start, pieces⟩ '%' ⟨.text, i, pieces⟩
  | field {start : Int} {pieces : List Piece} (f : Field) :
    Move layout i ⟨.afterPercent, start, pieces⟩ f.letter
      ⟨.text, i + 1, addPlaceholder pieces f.kind []⟩
  | date {start : Int} {pieces : List Piece} :
    Move layout i ⟨.afterPercent, start, pieces⟩ 'd'
      ⟨.expectBrace, i + 1, pieces⟩
  | opening {start : Int} {pieces : List Piece} :
    Move layout i ⟨.expectBrace, start, pieces⟩ '\x7b'
      ⟨.insidePattern, i + 1, pieces⟩
  /-- A date pattern goes on. -/
  | inside {start : Int} {pieces : List Piece} {c : Char}
    (hc : c ≠ '\x7d') :
    Move layout i ⟨.insidePattern, start, pieces⟩ c
      ⟨.insidePattern, start, pieces⟩
  /-- The closing brace ends the pattern, which becomes a piece. -/
  | closing {start : Int} {pieces : List Piece} :
    Move layout i ⟨.insidePattern, start, pieces⟩ '\x7d'
      ⟨.text, i + 1,
        addPlaceholder pieces .timestamp (slice layout start i)⟩

-- ==================================================== steps are moves

/-- The letters with a kind are those of the fields. -/
theorem exists_field_of_placeholder? {c : Char} {kind : Kind}
    (h : placeholder? c = some kind) :
    ∃ f : Field, c = f.letter ∧ kind = f.kind := by
  unfold placeholder? at h
  split at h
  · exact ⟨.loggerName, rfl, (Option.some.inj h).symm⟩
  · exact ⟨.level, rfl, (Option.some.inj h).symm⟩
  · exact ⟨.message, rfl, (Option.some.inj h).symm⟩
  · cases h

/-- The moves are all that a step over a character can do. -/
theorem advance_eq_ok_iff {s s' : Scanner} {layout : Text} {i : Int}
    {c : Char} :
    s.advance layout i c = .ok s' ↔ Move layout i s c s' := by
  constructor
  · intro h
    obtain ⟨state, start, pieces⟩ := s
    cases state with
    | text =>
        by_cases hc : c = '%'
        · subst hc
          cases h
          exact .percent
        · simp only [advance, if_neg hc] at h
          cases h
          exact .plain hc
    | afterPercent =>
        by_cases hpair : c = '%'
        · subst hpair
          cases h
          exact .pair
        by_cases hdate : c = 'd'
        · subst hdate
          cases h
          exact .date
        simp only [advance, if_neg hpair, if_neg hdate] at h
        cases hkind : placeholder? c with
        | none =>
            rw [hkind] at h
            cases h
        | some kind =>
            rw [hkind] at h
            cases h
            obtain ⟨f, rfl, rfl⟩ := exists_field_of_placeholder? hkind
            exact .field f
    | expectBrace =>
        by_cases hc : c = '\x7b'
        · subst hc
          cases h
          exact .opening
        · simp only [advance, if_neg hc] at h
          cases h
    | insidePattern =>
        by_cases hc : c = '\x7d'
        · subst hc
          cases h
          exact .closing
        · simp only [advance, if_neg hc] at h
          cases h
          exact .inside hc
  · intro h
    cases h with
    | plain hc => exact if_neg hc
    | percent => rfl
    | pair => rfl
    | field f => cases f <;> rfl
    | date => rfl
    | opening => rfl
    | inside hc => exact if_neg hc
    | closing => rfl

/-- A step is a move over the character at its position. -/
theorem step_eq_ok_iff {s s' : Scanner} {layout : Text} {i : Int} :
    s.step layout i = .ok s'
      ↔ ∃ c, charAt? layout i = some c ∧ Move layout i s c s' := by
  unfold step
  cases hchar : charAt? layout i with
  | none =>
      constructor
      · intro h
        cases h
      · rintro ⟨c, hc, -⟩
        cases hc
  | some c =>
      show (s.advance layout i c).mapError StepError.fault = .ok s' ↔ _
      rw [mapError_eq_ok_iff, advance_eq_ok_iff]
      constructor
      · intro h
        exact ⟨c, rfl, h⟩
      · rintro ⟨_, hc, h⟩
        cases hc
        exact h

/-- A step never sets the start of a run below zero. -/
theorem start_nonneg_of_advance {s s' : Scanner} {layout : Text} {i : Nat}
    {ch : Char} (hs : 0 ≤ s.start)
    (h : s.advance layout i ch = .ok s') : 0 ≤ s'.start := by
  cases advance_eq_ok_iff.1 h with
  | plain _ => exact hs
  | percent => exact hs
  | pair => exact Int.natCast_nonneg i
  | field f => exact Int.natCast_nonneg (i + 1)
  | date => exact Int.natCast_nonneg (i + 1)
  | opening => exact Int.natCast_nonneg (i + 1)
  | inside _ => exact hs
  | closing => exact Int.natCast_nonneg (i + 1)

end Scanner

end Logline.Layout
