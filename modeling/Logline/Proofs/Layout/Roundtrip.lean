/-
Compiling and writing back are inverse to each other: on layouts that
compile in one direction, on piece lists in normal form in the other. So
the normal forms are exactly the piece lists of compiled templates, a
template's pieces tell its layout, and any text at all can be had as a
literal by doubling its percent signs.

Both directions rest on the rows of atoms. A layout that compiles is the
spelling of a row, and so is what its pieces are written back as; a list
in normal form is the pieces of a row, and what it is written back as
spells that row again.
-/
import Logline.Proofs.Layout.Scan

namespace Logline.Layout

/-- The pieces of a compiled layout are written back as the layout. -/
theorem unparse_of_compile {layout : Text} {template : Template}
    (h : compile layout = .ok template) :
    unparse template.pieces = layout := by
  obtain ⟨atoms, rfl, rfl⟩ := compile_eq_ok_iff.1 h
  exact unparse_piecesOf atoms

/-- The pieces of a compiled layout are in normal form. -/
theorem normalForm_of_compile {layout : Text} {template : Template}
    (h : compile layout = .ok template) : NormalForm template.pieces := by
  obtain ⟨atoms, -, rfl⟩ := compile_eq_ok_iff.1 h
  exact normalForm_piecesOf atoms

/-- A list in normal form compiles from what it is written back as. -/
theorem compile_unparse {pieces : List Piece} (h : NormalForm pieces) :
    compile (unparse pieces) = .ok ⟨pieces, unparse pieces⟩ := by
  obtain ⟨atoms, rfl⟩ := exists_piecesOf h
  rw [unparse_piecesOf]
  exact compile_spelled atoms

/-- Layouts with the same pieces are the same. -/
theorem layout_eq_of_pieces_eq {layout layout' : Text}
    {template template' : Template} (h : compile layout = .ok template)
    (h' : compile layout' = .ok template')
    (hpieces : template.pieces = template'.pieces) : layout = layout' := by
  rw [← unparse_of_compile h, ← unparse_of_compile h', hpieces]

theorem layout_of_compile {layout : Text} {template : Template}
    (h : compile layout = .ok template) : template.layout = layout := by
  obtain ⟨atoms, rfl, rfl⟩ := compile_eq_ok_iff.1 h
  rfl

/-- Compiled templates are equal when they are of the same layout. -/
theorem template_eq_iff_layout_eq {layout layout' : Text}
    {template template' : Template} (h : compile layout = .ok template)
    (h' : compile layout' = .ok template') :
    template = template' ↔ layout = layout' := by
  constructor
  · rintro rfl
    rw [← layout_of_compile h, layout_of_compile h']
  · rintro rfl
    rw [h] at h'
    exact Except.ok.inj h'

/-- A text with its percent signs doubled compiles to the text, as one
literal; nothing at all compiles to no piece. -/
theorem compile_doubled (t : Text) :
    compile (doubled t)
      = .ok ⟨if t = [] then [] else [⟨.text, t⟩], doubled t⟩ := by
  have h := compile_unparse (normalForm_literal t)
  rw [unparse_literal] at h
  exact h

/-- Compiling and writing back are mutually inverse. A layout that
compiles is got back from its pieces, which are in normal form; a list in
normal form is got back from its layout. So equal pieces mean equal
layouts, and a doubled text compiles to itself as one literal. -/
theorem compile_unparse_roundtrip :
    (∀ (layout : Text) (template : Template),
        compile layout = .ok template →
        unparse template.pieces = layout ∧ NormalForm template.pieces)
      ∧ (∀ pieces : List Piece, NormalForm pieces →
        compile (unparse pieces) = .ok ⟨pieces, unparse pieces⟩)
      ∧ (∀ (layout layout' : Text) (template template' : Template),
        compile layout = .ok template → compile layout' = .ok template' →
        template.pieces = template'.pieces → layout = layout')
      ∧ ∀ t : Text, compile (doubled t)
        = .ok ⟨if t = [] then [] else [⟨.text, t⟩], doubled t⟩ := by
  refine ⟨?_, ?_, ?_, compile_doubled⟩
  · intro layout template h
    exact ⟨unparse_of_compile h, normalForm_of_compile h⟩
  · intro pieces h
    exact compile_unparse h
  · intro layout layout' template template' h h' hpieces
    exact layout_eq_of_pieces_eq h h' hpieces

/-- A literal with an escape, a field and a pattern with an opening
brace, there and back. -/
theorem compile_unparse_roundtrip_escape :
    NormalForm [⟨.text, ['a', '%']⟩, ⟨.loggerName, []⟩,
        ⟨.timestamp, ['%', '\x7b']⟩]
      ∧ (compile ['a', '%', '%', '%', 'c', '%', 'd', '\x7b', '%', '\x7b',
          '\x7d']).map Template.pieces
        = .ok [⟨.text, ['a', '%']⟩, ⟨.loggerName, []⟩,
            ⟨.timestamp, ['%', '\x7b']⟩] := by
  have hnormal : NormalForm [⟨.text, ['a', '%']⟩, ⟨.loggerName, []⟩,
      ⟨.timestamp, ['%', '\x7b']⟩] := by decide
  have h := compile_unparse_roundtrip.2.1 _ hnormal
  have hspelling : unparse [⟨.text, ['a', '%']⟩, ⟨.loggerName, []⟩,
      ⟨.timestamp, ['%', '\x7b']⟩]
      = ['a', '%', '%', '%', 'c', '%', 'd', '\x7b', '%', '\x7b', '\x7d'] :=
    rfl
  rw [hspelling] at h
  rw [h]
  exact ⟨hnormal, rfl⟩

end Logline.Layout
