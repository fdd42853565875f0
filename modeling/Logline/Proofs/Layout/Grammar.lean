/-
Acceptance and the point of failure, against the grammar alone.

A text is a layout when it is the spelling of some row of atoms, and it
is *viable* when some layout begins with it. Compilation answers exactly
for the layouts; and where it refuses, its fault marks the border of
viability. A fault at a character stands after the longest viable part of
the text: what is before it is viable, what includes it is not. A fault
at the end says that the text is viable as a whole and no layout yet.

A breach splits into its front, which still begins an atom, and the
character that no atom has there, if there is one. Closing the front
shows viability; that any other tail after the same character is again a
breach shows that nothing helps.
-/
import Logline.Proofs.Layout.Scan

namespace Logline.Layout

/-- Is the text spelled by a row of atoms? -/
def Grammatical (t : Text) : Prop :=
  ∃ atoms : List Atom, t = spelled atoms

/-- Does a layout begin with the text? -/
def Viable (t : Text) : Prop :=
  ∃ longer, Grammatical longer ∧ t <+: longer

-- ========================================================== acceptance

/-- Compilation answers exactly for the spellings of rows. -/
theorem exists_compile_iff {layout : Text} :
    (∃ template, compile layout = .ok template) ↔ Grammatical layout := by
  constructor
  · rintro ⟨template, h⟩
    obtain ⟨atoms, hrow, -⟩ := compile_eq_ok_iff.1 h
    exact ⟨atoms, hrow⟩
  · rintro ⟨atoms, rfl⟩
    exact ⟨_, compile_spelled atoms⟩

/-- A text that is refused is not spelled by any row. -/
theorem not_grammatical_of_error {layout : Text} {fault : Fault}
    (h : compile layout = .error fault) : ¬ Grammatical layout := by
  intro hgrammatical
  obtain ⟨template, hok⟩ := exists_compile_iff.2 hgrammatical
  rw [h] at hok
  cases hok

-- =========================================================== viability

namespace Breach

/-- The part of a breach that still begins an atom. -/
def front : Breach → Text
  | unknownIdentifier .. => ['%']
  | expectedBrace .. => ['%', 'd']
  | endsAfterPercent => ['%']
  | endsBeforeBrace => ['%', 'd']
  | endsInsidePattern pattern _ => '%' :: 'd' :: '\x7b' :: pattern

/-- The front of a breach can be closed to an atom. -/
theorem exists_closing (b : Breach) :
    ∃ (closing : Text) (a : Atom), b.front ++ closing = a.spelling := by
  cases b with
  | unknownIdentifier c rest unknown => exact ⟨['%'], .percent, rfl⟩
  | expectedBrace c rest other =>
      exact ⟨['\x7b', '\x7d'], .date [] List.not_mem_nil, rfl⟩
  | endsAfterPercent => exact ⟨['%'], .percent, rfl⟩
  | endsBeforeBrace =>
      exact ⟨['\x7b', '\x7d'], .date [] List.not_mem_nil, rfl⟩
  | endsInsidePattern pattern unclosed =>
      exact ⟨['\x7d'], .date pattern unclosed, rfl⟩

/-- A breach with a character at fault: it stands right after the front,
and whatever follows it, there is a breach. -/
theorem of_identifier_eq_some {b : Breach} {before : Nat} {x : Char}
    (h : (b.fault before).identifier = some x) :
    (b.fault before).position = (before + b.front.length : Nat)
      ∧ (∃ rest, b.text = b.front ++ x :: rest)
      ∧ ∀ rest, ∃ b' : Breach, b.front ++ x :: rest = b'.text := by
  cases b with
  | unknownIdentifier c rest unknown =>
      cases h
      refine ⟨rfl, ⟨rest, rfl⟩, fun rest' => ?_⟩
      exact ⟨.unknownIdentifier x rest' unknown, rfl⟩
  | expectedBrace c rest other =>
      cases h
      refine ⟨rfl, ⟨rest, rfl⟩, fun rest' => ?_⟩
      exact ⟨.expectedBrace x rest' other, rfl⟩
  | endsAfterPercent => cases h
  | endsBeforeBrace => cases h
  | endsInsidePattern pattern unclosed => cases h

/-- A breach without a character at fault is all front, and its fault is
at the end. -/
theorem of_identifier_eq_none {b : Breach} {before : Nat}
    (h : (b.fault before).identifier = none) :
    (b.fault before).position = (before + b.text.length : Nat)
      ∧ b.text = b.front := by
  cases b with
  | unknownIdentifier c rest unknown => cases h
  | expectedBrace c rest other => cases h
  | endsAfterPercent => exact ⟨rfl, rfl⟩
  | endsBeforeBrace => exact ⟨rfl, rfl⟩
  | endsInsidePattern pattern unclosed => exact ⟨rfl, rfl⟩

end Breach

/-- The front of a breach is viable after a row. -/
theorem viable_front (atoms : List Atom) (b : Breach) :
    Viable (spelled atoms ++ b.front) := by
  obtain ⟨closing, a, hclosing⟩ := b.exists_closing
  refine ⟨spelled (atoms ++ [a]), ⟨_, rfl⟩, closing, ?_⟩
  rw [List.append_assoc, hclosing, spelled_append, spelled_singleton]

/-- With its character at fault, a breach is beyond repair. -/
theorem not_viable_of_identifier {atoms : List Atom} {b : Breach}
    {before : Nat} {x : Char}
    (h : (b.fault before).identifier = some x) :
    ¬ Viable (spelled atoms ++ b.front ++ [x]) := by
  rintro ⟨longer, hgrammatical, rest, rfl⟩
  obtain ⟨-, -, htails⟩ := b.of_identifier_eq_some h
  obtain ⟨b', hb'⟩ := htails rest
  refine not_grammatical_of_error (compile_breach atoms b') ?_
  rw [← hb', ← List.append_assoc, ← List.singleton_append,
    ← List.append_assoc]
  exact hgrammatical

-- =================================================== the exact failure

/-- A fault at a character marks the end of the longest viable part. -/
theorem of_error_at_char {layout : Text} {fault : Fault} {x : Char}
    (h : compile layout = .error fault) (hx : fault.identifier = some x) :
    ∃ p : Nat, fault.position = p ∧ layout[p]? = some x
      ∧ Viable (layout.take p) ∧ ¬ Viable (layout.take (p + 1)) := by
  obtain ⟨atoms, b, rfl, rfl⟩ := compile_eq_error_iff.1 h
  obtain ⟨hposition, ⟨rest, htext⟩, -⟩ := b.of_identifier_eq_some hx
  have hlayout : spelled atoms ++ b.text
      = (spelled atoms ++ b.front) ++ x :: rest := by
    rw [htext, List.append_assoc]
  have hlen : (spelled atoms).length + b.front.length
      = (spelled atoms ++ b.front).length := List.length_append.symm
  refine ⟨(spelled atoms ++ b.front).length, ?_, ?_, ?_, ?_⟩
  · rw [hposition, hlen]
  · rw [hlayout, List.getElem?_append_right (Nat.le_refl _), Nat.sub_self]
    rfl
  · rw [hlayout, List.take_left]
    exact viable_front atoms b
  · rw [hlayout, List.take_length_add_append]
    exact not_viable_of_identifier hx

/-- A fault at the end is that of a text that could go on to be a
layout. -/
theorem of_error_at_end {layout : Text} {fault : Fault}
    (h : compile layout = .error fault) (hnone : fault.identifier = none) :
    fault.position = layout.length ∧ ¬ Grammatical layout
      ∧ ∃ longer, Grammatical longer ∧ layout <+: longer
        ∧ layout ≠ longer := by
  have hnot := not_grammatical_of_error h
  obtain ⟨atoms, b, rfl, rfl⟩ := compile_eq_error_iff.1 h
  obtain ⟨hposition, hfront⟩ := b.of_identifier_eq_none hnone
  obtain ⟨longer, hlonger, hprefix⟩ := viable_front atoms b
  rw [← hfront] at hprefix
  refine ⟨?_, hnot, longer, hlonger, hprefix, ?_⟩
  · rw [hposition, List.length_append]
  · rintro rfl
    exact hnot hlonger

/-- Compilation accepts exactly the layouts of the grammar, and a refusal
marks exactly where the text leaves it: at the first character that no
layout has there, or at the end of a text that some longer layout begins
with. -/
theorem compile_exact (layout : Text) :
    ((∃ template, compile layout = .ok template) ↔ Grammatical layout)
      ∧ ∀ fault, compile layout = .error fault →
        (∃ (p : Nat) (x : Char), fault.position = p
            ∧ fault.identifier = some x ∧ layout[p]? = some x
            ∧ Viable (layout.take p) ∧ ¬ Viable (layout.take (p + 1)))
        ∨ (fault.identifier = none ∧ fault.position = layout.length
            ∧ ¬ Grammatical layout
            ∧ ∃ longer, Grammatical longer ∧ layout <+: longer
              ∧ layout ≠ longer) := by
  refine ⟨exists_compile_iff, fun fault h => ?_⟩
  cases hx : fault.identifier with
  | some x =>
      obtain ⟨p, hposition, hchar, hbefore, hafter⟩ := of_error_at_char h hx
      exact Or.inl ⟨p, x, hposition, rfl, hchar, hbefore, hafter⟩
  | none =>
      obtain ⟨hposition, hnot, hlonger⟩ := of_error_at_end h hx
      exact Or.inr ⟨rfl, hposition, hnot, hlonger⟩

/-- A percent sign before a letter without a meaning: the text is viable
up to the letter and not beyond. -/
theorem compile_exact_unknown :
    compile ['a', '%', 'x'] = .error (.unknownIdentifier 'x' 2)
      ∧ Viable ['a', '%'] ∧ ¬ Viable ['a', '%', 'x'] := by
  have h : compile ['a', '%', 'x'] = .error (.unknownIdentifier 'x' 2) := rfl
  refine ⟨h, ?_⟩
  rcases (compile_exact ['a', '%', 'x']).2 _ h with
    ⟨p, x, hposition, -, -, hviable⟩ | ⟨hnone, -⟩
  · have hp : (2 : Int) = p := hposition
    obtain rfl : p = 2 := by omega
    exact hviable
  · cases hnone

end Logline.Layout
