/-
The algebra of piece lists: how a list of pieces is written back as a
layout, what it takes for a list to be in normal form, and what putting
lists together does to both.

# Gluing

Two lists are put together by `glue`: one behind the other, with two
literals at the seam made one. Adding a text at the end of a list, as the
scanner does, is gluing on the text as a literal (`addText_eq_glue`), so
what holds of glued lists holds of added text.

Every fact about `glue` goes through one of two equations: either there
are literals on both sides of the seam, or the lists stand side by side.

# Writing back

A literal is written with every percent sign doubled, a placeholder as
its letter, and a timestamp with its pattern in braces. Writing a list is
writing its pieces one after another, so it commutes with gluing —
merging included, because doubling commutes with concatenation.

# Normal form

A list is in normal form when no literal is empty, no two literals stand
side by side, no date pattern has a closing brace, and the other kinds
carry no payload. Gluing keeps it, and so do `addText` and
`addPlaceholder`; they are the only ways the scanner adds anything.
-/
import Logline.Layout.Template
import Mathlib.Data.List.Chain

namespace Logline.Layout

-- ======================================================== writing back

/-- A literal as a layout writes it: every percent sign twice. -/
def doubled (t : Text) : Text :=
  t.flatMap fun c => if c = '%' then ['%', '%'] else [c]

/-- A piece as a layout writes it. -/
def Piece.spelling : Piece → Text
  | ⟨.text, t⟩ => doubled t
  | ⟨.loggerName, _⟩ => ['%', 'c']
  | ⟨.level, _⟩ => ['%', 'p']
  | ⟨.message, _⟩ => ['%', 'm']
  | ⟨.timestamp, pattern⟩ => '%' :: 'd' :: '\x7b' :: (pattern ++ ['\x7d'])
  | ⟨.other _, _⟩ => []

/-- The layout that a list of pieces is written as. -/
def unparse (pieces : List Piece) : Text :=
  pieces.flatMap Piece.spelling

theorem doubled_append (s t : Text) :
    doubled (s ++ t) = doubled s ++ doubled t :=
  List.flatMap_append

/-- Only the percent sign is written differently from how it reads. -/
theorem doubled_singleton {c : Char} (hc : c ≠ '%') : doubled [c] = [c] := by
  show (if c = '%' then ['%', '%'] else [c]) ++ [] = [c]
  rw [if_neg hc, List.append_nil]

theorem unparse_append (pieces more : List Piece) :
    unparse (pieces ++ more) = unparse pieces ++ unparse more :=
  List.flatMap_append

theorem unparse_singleton (p : Piece) : unparse [p] = p.spelling :=
  List.append_nil _

-- ============================================ the two shapes of a list

/-- Does the list end in a literal? -/
def EndsInText (pieces : List Piece) : Prop :=
  ∃ before t, pieces = before ++ [⟨.text, t⟩]

/-- Does the list start with a literal? -/
def StartsWithText (pieces : List Piece) : Prop :=
  ∃ t after, pieces = ⟨.text, t⟩ :: after

/-- A list that ends in some piece ends in a literal only if that piece
is one. -/
theorem endsInText_snoc {before : List Piece} {p : Piece} :
    EndsInText (before ++ [p]) ↔ p.kind = .text := by
  constructor
  · rintro ⟨before', t, h⟩
    have hp := List.append_inj_right' h rfl
    injection hp with hp
    rw [hp]
  · intro hp
    exact ⟨before, p.payload, by rw [← hp]⟩

theorem startsWithText_cons {p : Piece} {after : List Piece} :
    StartsWithText (p :: after) ↔ p.kind = .text := by
  constructor
  · rintro ⟨t, after', h⟩
    cases h
    rfl
  · intro hp
    exact ⟨p.payload, after, by rw [← hp]⟩

-- ============================================================== gluing

/-- One list of pieces behind another; a literal that ends the first and
one that starts the second become one. -/
def glue (pieces more : List Piece) : List Piece :=
  match pieces.getLast?, more with
  | some ⟨.text, s⟩, ⟨.text, t⟩ :: rest =>
    pieces.dropLast ++ ⟨.text, s ++ t⟩ :: rest
  | _, _ => pieces ++ more

/-- Two literals at the seam become one. -/
theorem glue_texts (before : List Piece) (s t : Text) (rest : List Piece) :
    glue (before ++ [⟨.text, s⟩]) (⟨.text, t⟩ :: rest)
      = before ++ ⟨.text, s ++ t⟩ :: rest := by
  unfold glue
  rw [List.getLast?_concat]
  show (before ++ [(⟨.text, s⟩ : Piece)]).dropLast ++ _ = _
  rw [List.dropLast_concat]

/-- Without two literals at the seam the lists stand side by side. -/
theorem glue_of_not {pieces more : List Piece}
    (h : ¬ (EndsInText pieces ∧ StartsWithText more)) :
    glue pieces more = pieces ++ more := by
  unfold glue
  split
  · next s t rest hlast =>
    obtain ⟨before, rfl⟩ := List.getLast?_eq_some_iff.1 hlast
    exact absurd ⟨⟨before, s, rfl⟩, t, rest, rfl⟩ h
  · rfl

/-- Glued lists are written back in a row. -/
theorem unparse_glue (pieces more : List Piece) :
    unparse (glue pieces more) = unparse pieces ++ unparse more := by
  by_cases h : EndsInText pieces ∧ StartsWithText more
  · obtain ⟨⟨before, s, rfl⟩, t, rest, rfl⟩ := h
    have hs : unparse (before ++ [⟨.text, s⟩])
        = unparse before ++ doubled s := by
      rw [unparse_append, unparse_singleton]
      rfl
    rw [glue_texts, unparse_append, hs, List.append_assoc]
    show unparse before ++ (doubled (s ++ t) ++ unparse rest) = _
    rw [doubled_append, List.append_assoc]
    rfl
  · rw [glue_of_not h, unparse_append]

/-- A text as a list of pieces: one literal, or none when it is empty. -/
def literal (t : Text) : List Piece :=
  if t = [] then [] else [⟨.text, t⟩]

/-- A literal is written doubled, and so is one that is not there. -/
theorem unparse_literal (t : Text) : unparse (literal t) = doubled t := by
  by_cases ht : t = []
  · rw [literal, if_pos ht, ht]
    rfl
  · rw [literal, if_neg ht, unparse_singleton]
    rfl

-- ======================================================= adding pieces

/-- The literal at the end grows. -/
theorem addText_snoc (before : List Piece) (s t : Text) :
    addText (before ++ [⟨.text, s⟩]) t = before ++ [⟨.text, s ++ t⟩] := by
  unfold addText
  by_cases ht : t = []
  · rw [if_pos ht, ht, List.append_nil]
  · rw [if_neg ht, List.getLast?_concat]
    show (before ++ [(⟨.text, s⟩ : Piece)]).dropLast ++ _ = _
    rw [List.dropLast_concat]

/-- Where no literal ends the list, a new one does. -/
theorem addText_of_not_endsInText {pieces : List Piece} {t : Text}
    (hend : ¬ EndsInText pieces) (ht : t ≠ []) :
    addText pieces t = pieces ++ [⟨.text, t⟩] := by
  unfold addText
  rw [if_neg ht]
  split
  · rename_i s hlast
    obtain ⟨before, rfl⟩ := List.getLast?_eq_some_iff.1 hlast
    exact absurd ⟨before, s, rfl⟩ hend
  · rfl

/-- Adding a text is adding its parts one after another. -/
theorem addText_addText (pieces : List Piece) (s t : Text) :
    addText (addText pieces s) t = addText pieces (s ++ t) := by
  by_cases hend : EndsInText pieces
  · obtain ⟨before, u, rfl⟩ := hend
    rw [addText_snoc, addText_snoc, addText_snoc, List.append_assoc]
  · by_cases hs : s = []
    · rw [hs, addText_nil, List.nil_append]
    · have hst : s ++ t ≠ [] := List.append_ne_nil_of_left_ne_nil hs t
      rw [addText_of_not_endsInText hend hs, addText_snoc,
        addText_of_not_endsInText hend hst]

/-- Adding a text is gluing it on as a literal. -/
theorem addText_eq_glue (pieces : List Piece) (t : Text) :
    addText pieces t = glue pieces (literal t) := by
  by_cases ht : t = []
  · have hseam : ¬ (EndsInText pieces ∧ StartsWithText []) := by
      rintro ⟨-, _, _, h⟩
      cases h
    rw [literal, if_pos ht, ht, addText_nil, glue_of_not hseam,
      List.append_nil]
  · rw [literal, if_neg ht]
    by_cases hend : EndsInText pieces
    · obtain ⟨before, s, rfl⟩ := hend
      rw [addText_snoc, glue_texts]
    · rw [addText_of_not_endsInText hend ht,
        glue_of_not fun hseam => hend hseam.1]

/-- Added text is written at the end, merged or not. -/
theorem unparse_addText (pieces : List Piece) (t : Text) :
    unparse (addText pieces t) = unparse pieces ++ doubled t := by
  rw [addText_eq_glue, unparse_glue, unparse_literal]

/-- An added placeholder is written at the end. -/
theorem unparse_addPlaceholder (pieces : List Piece) (kind : Kind)
    (pattern : Text) :
    unparse (addPlaceholder pieces kind pattern)
      = unparse pieces ++ Piece.spelling ⟨kind, pattern⟩ := by
  unfold addPlaceholder
  rw [unparse_append, unparse_singleton]

-- ========================================================= normal form

/-- Does a piece carry what its kind asks for? A literal is not empty, a
date pattern has no closing brace, and the other kinds carry nothing. -/
def Piece.WellFormed : Piece → Prop
  | ⟨.text, t⟩ => t ≠ []
  | ⟨.timestamp, pattern⟩ => '\x7d' ∉ pattern
  | ⟨.loggerName, payload⟩ => payload = []
  | ⟨.level, payload⟩ => payload = []
  | ⟨.message, payload⟩ => payload = []
  | ⟨.other _, _⟩ => False

instance (p : Piece) : Decidable p.WellFormed :=
  match p with
  | ⟨.text, t⟩ => inferInstanceAs (Decidable (t ≠ []))
  | ⟨.timestamp, pattern⟩ => inferInstanceAs (Decidable ('\x7d' ∉ pattern))
  | ⟨.loggerName, payload⟩ => inferInstanceAs (Decidable (payload = []))
  | ⟨.level, payload⟩ => inferInstanceAs (Decidable (payload = []))
  | ⟨.message, payload⟩ => inferInstanceAs (Decidable (payload = []))
  | ⟨.other _, _⟩ => inferInstanceAs (Decidable False)

/-- May one piece stand before another? Two literals would be one. -/
def Piece.MayPrecede (p q : Piece) : Prop :=
  ¬ (p.kind = .text ∧ q.kind = .text)

instance (p q : Piece) : Decidable (p.MayPrecede q) :=
  inferInstanceAs (Decidable (¬ _))

/-- A list of pieces as a compilation leaves it. -/
def NormalForm (pieces : List Piece) : Prop :=
  (∀ p ∈ pieces, p.WellFormed) ∧ pieces.IsChain Piece.MayPrecede

instance (pieces : List Piece) : Decidable (NormalForm pieces) :=
  inferInstanceAs (Decidable (_ ∧ _))

theorem normalForm_nil : NormalForm [] :=
  ⟨fun _ hp => absurd hp List.not_mem_nil, List.IsChain.nil⟩

theorem normalForm_singleton {p : Piece} :
    NormalForm [p] ↔ p.WellFormed := by
  constructor
  · intro h
    exact h.1 p List.mem_cons_self
  · intro hp
    refine ⟨fun q hq => ?_, List.IsChain.singleton p⟩
    rw [List.mem_singleton.1 hq]
    exact hp

/-- Two lists in normal form make one, unless two literals meet. -/
theorem normalForm_append {pieces more : List Piece} :
    NormalForm (pieces ++ more)
      ↔ NormalForm pieces ∧ NormalForm more
        ∧ ¬ (EndsInText pieces ∧ StartsWithText more) := by
  unfold NormalForm
  rw [List.isChain_append, List.forall_mem_append]
  constructor
  · rintro ⟨⟨hpieces, hmore⟩, hchain, hchain', hseam⟩
    refine ⟨⟨hpieces, hchain⟩, ⟨hmore, hchain'⟩, ?_⟩
    rintro ⟨⟨before, s, rfl⟩, t, after, rfl⟩
    exact hseam ⟨.text, s⟩ List.getLast?_concat ⟨.text, t⟩ rfl ⟨rfl, rfl⟩
  · rintro ⟨⟨hpieces, hchain⟩, ⟨hmore, hchain'⟩, hseam⟩
    refine ⟨⟨hpieces, hmore⟩, hchain, hchain', ?_⟩
    intro p hp q hq ⟨hpkind, hqkind⟩
    obtain ⟨before, rfl⟩ := List.getLast?_eq_some_iff.1 hp
    obtain ⟨after, rfl⟩ := List.head?_eq_some_iff.1 hq
    exact hseam ⟨endsInText_snoc.2 hpkind, startsWithText_cons.2 hqkind⟩

/-- One more piece keeps the normal form exactly when it is well-formed
and no second literal in a row. -/
theorem normalForm_snoc {before : List Piece} {p : Piece} :
    NormalForm (before ++ [p])
      ↔ NormalForm before ∧ p.WellFormed
        ∧ ¬ (EndsInText before ∧ p.kind = .text) := by
  rw [normalForm_append, normalForm_singleton, startsWithText_cons]

/-- Glued normal forms are a normal form. -/
theorem normalForm_glue {pieces more : List Piece}
    (hpieces : NormalForm pieces) (hmore : NormalForm more) :
    NormalForm (glue pieces more) := by
  by_cases h : EndsInText pieces ∧ StartsWithText more
  · obtain ⟨⟨before, s, rfl⟩, t, rest, rfl⟩ := h
    obtain ⟨hbefore, hs, hleft⟩ := normalForm_snoc.1 hpieces
    rw [← List.singleton_append] at hmore
    obtain ⟨-, hrest, hright⟩ := normalForm_append.1 hmore
    have hst : s ++ t ≠ [] := List.append_ne_nil_of_left_ne_nil hs t
    have hmerged : NormalForm ([⟨.text, s ++ t⟩] ++ rest) := by
      refine normalForm_append.2 ⟨normalForm_singleton.2 hst, hrest, ?_⟩
      rintro ⟨-, hstart⟩
      exact hright ⟨⟨[], t, rfl⟩, hstart⟩
    rw [glue_texts, ← List.singleton_append]
    refine normalForm_append.2 ⟨hbefore, hmerged, ?_⟩
    rintro ⟨hend, -⟩
    exact hleft ⟨hend, rfl⟩
  · rw [glue_of_not h]
    exact normalForm_append.2 ⟨hpieces, hmore, h⟩

/-- A text as a literal is in normal form. -/
theorem normalForm_literal (t : Text) : NormalForm (literal t) := by
  by_cases ht : t = []
  · rw [literal, if_pos ht]
    exact normalForm_nil
  · rw [literal, if_neg ht]
    exact normalForm_singleton.2 ht

/-- Added text keeps the normal form. -/
theorem normalForm_addText {pieces : List Piece} (h : NormalForm pieces)
    (t : Text) : NormalForm (addText pieces t) := by
  rw [addText_eq_glue]
  exact normalForm_glue h (normalForm_literal t)

/-- An added placeholder keeps the normal form. -/
theorem normalForm_addPlaceholder {pieces : List Piece} {kind : Kind}
    {pattern : Text} (h : NormalForm pieces) (hkind : kind ≠ .text)
    (hp : Piece.WellFormed ⟨kind, pattern⟩) :
    NormalForm (addPlaceholder pieces kind pattern) :=
  normalForm_snoc.2 ⟨h, hp, fun hboth => hkind hboth.2⟩

end Logline.Layout
