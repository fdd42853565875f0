/-
The grammar of layouts, said without a scanner. A layout is a row of
*atoms*: an ordinary character, a doubled percent sign, a one-letter
placeholder, or the date placeholder with its pattern in braces. An atom
carries the proof that it is spelled as one, so any row of atoms is a
layout and its spelling needs no escape clause.

# Where a text leaves the grammar

Reading from the left, a text is a row of atoms to its end, or it is a
row of atoms followed by a *breach*: a tail that no atom begins. There
are five ways to be one, two that show at a character and three that show
at the end. `readable` is this dichotomy, for every text; it is what lets
each fact about all texts be proved on rows and on breaches.

# What a row means

`piecesOf` adds the atoms' pieces from the left. The result is in normal
form, it is written back as the row's spelling, and every list in normal
form comes from some row.
-/
import Logline.Proofs.Layout.Pieces

namespace Logline.Layout

-- =============================================================== atoms

/-- The placeholders of one letter. -/
inductive Field where
  | loggerName
  | level
  | message
  deriving DecidableEq, Repr

namespace Field

/-- The letter that asks for a field. -/
def letter : Field → Char
  | loggerName => 'c'
  | level => 'p'
  | message => 'm'

/-- The kind of the pieces that show a field. -/
def kind : Field → Kind
  | loggerName => .loggerName
  | level => .level
  | message => .message

theorem kind_ne_text (f : Field) : f.kind ≠ .text := by
  cases f <;> exact fun h => nomatch h

end Field

/-- One unit of the layout grammar. -/
inductive Atom where
  /-- A character that stands for itself. -/
  | plain (c : Char) (ordinary : c ≠ '%')
  /-- A percent sign, spelled twice. -/
  | percent
  | field (f : Field)
  /-- The timestamp, by a pattern that ends at its first closing brace. -/
  | date (pattern : Text) (closed : '\x7d' ∉ pattern)
  deriving DecidableEq, Repr

namespace Atom

/-- How an atom is spelled. -/
def spelling : Atom → Text
  | plain c _ => [c]
  | percent => ['%', '%']
  | field f => ['%', f.letter]
  | date pattern _ => '%' :: 'd' :: '\x7b' :: (pattern ++ ['\x7d'])

/-- Adds what an atom stands for to the pieces before it. -/
def addTo (pieces : List Piece) : Atom → List Piece
  | plain c _ => addText pieces [c]
  | percent => addText pieces ['%']
  | field f => addPlaceholder pieces f.kind []
  | date pattern _ => addPlaceholder pieces .timestamp pattern

/-- The atom that a literal character is spelled as. -/
def ofChar (c : Char) : Atom :=
  if h : c = '%' then percent else plain c h

theorem addTo_ofChar (pieces : List Piece) (c : Char) :
    addTo pieces (ofChar c) = addText pieces [c] := by
  unfold ofChar
  split
  · next hc => rw [hc]; rfl
  · rfl

end Atom

/-- How a row of atoms is spelled. -/
def spelled (atoms : List Atom) : Text :=
  atoms.flatMap Atom.spelling

/-- The pieces of a row of atoms. -/
def piecesOf (atoms : List Atom) : List Piece :=
  atoms.foldl Atom.addTo []

theorem spelled_cons (a : Atom) (atoms : List Atom) :
    spelled (a :: atoms) = a.spelling ++ spelled atoms :=
  List.flatMap_cons

theorem spelled_append (atoms more : List Atom) :
    spelled (atoms ++ more) = spelled atoms ++ spelled more :=
  List.flatMap_append

theorem spelled_singleton (a : Atom) : spelled [a] = a.spelling :=
  List.append_nil _

theorem piecesOf_append (atoms more : List Atom) :
    piecesOf (atoms ++ more) = more.foldl Atom.addTo (piecesOf atoms) :=
  List.foldl_append

theorem piecesOf_snoc (atoms : List Atom) (a : Atom) :
    piecesOf (atoms ++ [a]) = a.addTo (piecesOf atoms) :=
  piecesOf_append atoms [a]

-- =============================================== rows and normal forms

/-- An atom is written back as it is spelled. -/
theorem unparse_addTo (pieces : List Piece) (a : Atom) :
    unparse (a.addTo pieces) = unparse pieces ++ a.spelling := by
  cases a with
  | plain c ordinary =>
      show unparse (addText pieces [c]) = _
      rw [unparse_addText, doubled_singleton ordinary]
      rfl
  | percent => exact unparse_addText pieces ['%']
  | field f =>
      show unparse (addPlaceholder pieces f.kind []) = _
      rw [unparse_addPlaceholder]
      cases f <;> rfl
  | date pattern closed =>
      exact unparse_addPlaceholder pieces .timestamp pattern

/-- The pieces of a row are written back as the row is spelled. -/
theorem unparse_piecesOf (atoms : List Atom) :
    unparse (piecesOf atoms) = spelled atoms := by
  induction atoms using List.reverseRecOn with
  | nil => rfl
  | append_singleton atoms a ih =>
      rw [piecesOf_snoc, unparse_addTo, ih, spelled_append,
        spelled_singleton]

/-- An atom keeps the normal form of the pieces before it. -/
theorem normalForm_addTo {pieces : List Piece} (h : NormalForm pieces)
    (a : Atom) : NormalForm (a.addTo pieces) := by
  cases a with
  | plain c ordinary => exact normalForm_addText h [c]
  | percent => exact normalForm_addText h ['%']
  | field f =>
      refine normalForm_addPlaceholder h f.kind_ne_text ?_
      cases f <;> rfl
  | date pattern closed =>
      exact normalForm_addPlaceholder h (fun hkind => nomatch hkind) closed

/-- The pieces of a row are in normal form. -/
theorem normalForm_piecesOf (atoms : List Atom) :
    NormalForm (piecesOf atoms) := by
  induction atoms using List.reverseRecOn with
  | nil => exact normalForm_nil
  | append_singleton atoms a ih =>
      rw [piecesOf_snoc]
      exact normalForm_addTo ih a

/-- Adding a text character by character adds the text. -/
theorem foldl_addTo_ofChar (t : Text) :
    ∀ pieces : List Piece,
      (t.map Atom.ofChar).foldl Atom.addTo pieces = addText pieces t := by
  induction t with
  | nil => intro pieces; exact (addText_nil pieces).symm
  | cons c t ih =>
      intro pieces
      rw [List.map_cons, List.foldl_cons, Atom.addTo_ofChar, ih,
        addText_addText]
      rfl

/-- A well-formed piece that may follow some pieces is what some atoms
add to them. -/
private theorem exists_addTo {pieces : List Piece} {p : Piece}
    (hp : p.WellFormed) (hseam : ¬ (EndsInText pieces ∧ p.kind = .text)) :
    ∃ atoms : List Atom,
      atoms.foldl Atom.addTo pieces = pieces ++ [p] := by
  obtain ⟨kind, payload⟩ := p
  cases kind with
  | text =>
      refine ⟨payload.map Atom.ofChar, ?_⟩
      rw [foldl_addTo_ofChar]
      exact addText_of_not_endsInText (fun hend => hseam ⟨hend, rfl⟩) hp
  | loggerName => exact ⟨[.field .loggerName], by cases hp; rfl⟩
  | level => exact ⟨[.field .level], by cases hp; rfl⟩
  | message => exact ⟨[.field .message], by cases hp; rfl⟩
  | timestamp => exact ⟨[.date payload hp], rfl⟩
  | other name => exact hp.elim

/-- Every list in normal form is the pieces of a row. -/
theorem exists_piecesOf {pieces : List Piece} (h : NormalForm pieces) :
    ∃ atoms, piecesOf atoms = pieces := by
  induction pieces using List.reverseRecOn with
  | nil => exact ⟨[], rfl⟩
  | append_singleton before p ih =>
      obtain ⟨hbefore, hp, hseam⟩ := normalForm_snoc.1 h
      obtain ⟨atoms, rfl⟩ := ih hbefore
      obtain ⟨more, hmore⟩ := exists_addTo hp hseam
      exact ⟨atoms ++ more, (piecesOf_append atoms more).trans hmore⟩

-- ============================================================ breaches

/-- A tail that no atom begins. -/
inductive Breach where
  /-- A percent sign before a character that no atom has there. -/
  | unknownIdentifier (c : Char) (rest : Text)
      (unknown : c ≠ '%' ∧ c ≠ 'd' ∧ ∀ f : Field, c ≠ f.letter)
  /-- The date placeholder before something other than a brace. -/
  | expectedBrace (c : Char) (rest : Text) (other : c ≠ '\x7b')
  /-- A single percent sign at the end. -/
  | endsAfterPercent
  /-- The date placeholder at the end. -/
  | endsBeforeBrace
  /-- A date pattern that is not closed. -/
  | endsInsidePattern (pattern : Text) (unclosed : '\x7d' ∉ pattern)
  deriving DecidableEq

namespace Breach

/-- The characters of a breach, to the end of the text. -/
def text : Breach → Text
  | unknownIdentifier c rest _ => '%' :: c :: rest
  | expectedBrace c rest _ => '%' :: 'd' :: c :: rest
  | endsAfterPercent => ['%']
  | endsBeforeBrace => ['%', 'd']
  | endsInsidePattern pattern _ => '%' :: 'd' :: '\x7b' :: pattern

end Breach

/-- A text as a row of atoms, with a breach after it or not. -/
def Readable (t : Text) : Prop :=
  ∃ atoms, t = spelled atoms ∨ ∃ b : Breach, t = spelled atoms ++ b.text

/-- An atom in front of a text that has been read. -/
private theorem Readable.cons (a : Atom) {t : Text} (h : Readable t) :
    Readable (a.spelling ++ t) := by
  obtain ⟨atoms, rfl | ⟨b, rfl⟩⟩ := h
  · exact ⟨a :: atoms, Or.inl (spelled_cons a atoms).symm⟩
  · refine ⟨a :: atoms, Or.inr ⟨b, ?_⟩⟩
    rw [spelled_cons, List.append_assoc]

/-- A breach with nothing in front. -/
private theorem Breach.readable (b : Breach) : Readable b.text :=
  ⟨[], Or.inr ⟨b, rfl⟩⟩

/-- What stands after a date placeholder and its brace: a pattern up to
the first closing brace, or one that is never closed. -/
private theorem readable_pattern {t : Text}
    (ih : ∀ rest : Text, rest.length < t.length → Readable rest) :
    Readable ('%' :: 'd' :: '\x7b' :: t) := by
  by_cases hclosed : '\x7d' ∈ t
  · obtain ⟨pattern, rest, rfl, hpattern⟩ :=
      List.eq_append_cons_of_mem hclosed
    have hrest : Readable rest := ih rest (by
      rw [List.length_append, List.length_cons]
      omega)
    have h := hrest.cons (.date pattern hpattern)
    simpa only [Atom.spelling, List.cons_append, List.append_assoc,
      List.nil_append] using h
  · exact (Breach.endsInsidePattern t hclosed).readable

/-- What stands after a percent sign: the second half of a pair, the
letter of a field, a date placeholder, or a breach. -/
private theorem readable_percent {t : Text}
    (ih : ∀ rest : Text, rest.length < t.length → Readable rest) :
    Readable ('%' :: t) := by
  cases t with
  | nil => exact Breach.endsAfterPercent.readable
  | cons c t =>
      have ht : Readable t := ih t (Nat.lt_succ_self _)
      by_cases hpercent : c = '%'
      · rw [hpercent]
        exact ht.cons .percent
      · by_cases hdate : c = 'd'
        · rw [hdate]
          cases t with
          | nil => exact Breach.endsBeforeBrace.readable
          | cons brace t =>
              by_cases hbrace : brace = '\x7b'
              · rw [hbrace]
                refine readable_pattern fun rest hrest => ih rest ?_
                rw [List.length_cons, List.length_cons]
                omega
              · exact (Breach.expectedBrace brace t hbrace).readable
        · by_cases hfield : ∃ f : Field, c = f.letter
          · obtain ⟨f, rfl⟩ := hfield
            exact ht.cons (.field f)
          · have hunknown : ∀ f : Field, c ≠ f.letter :=
              fun f hf => hfield ⟨f, hf⟩
            exact (Breach.unknownIdentifier c t
              ⟨hpercent, hdate, hunknown⟩).readable

/-- Every text is a row of atoms, or one with a breach after it. The
induction is on the length: an atom may take any number of characters. -/
theorem readable (t : Text) : Readable t := by
  induction hn : t.length using Nat.strong_induction_on generalizing t with
  | _ n ih =>
      subst hn
      cases t with
      | nil => exact ⟨[], Or.inl rfl⟩
      | cons c t =>
          have ih' : ∀ rest : Text, rest.length ≤ t.length →
              Readable rest :=
            fun rest hrest =>
              ih rest.length (Nat.lt_succ_of_le hrest) rest rfl
          by_cases hc : c = '%'
          · rw [hc]
            exact readable_percent fun rest hrest => ih' rest hrest.le
          · exact (ih' t (Nat.le_refl _)).cons (.plain c hc)

end Logline.Layout
