/-
Layouts compose. After a layout that compiles, any text compiles exactly
if it does so by itself, and then to the same pieces behind those of the
layout — with the literals at the seam made one, which is `glue`. A line
is composed the same way, because a merged literal shows its two parts.

The scans of the parts never show up in that of the whole: a run may
cross the seam, and no state of the second scan is one of the whole. So
the pieces are found without scanning. Glued normal forms are a normal
form, and they are written back as the two layouts in a row; what is
written so compiles to nothing else.

Faults compose too. One that the second text has by itself is found
behind the layout at its distance from there; and one at a character of
the first text is found whatever comes after it. Only a fault at the end
of the first text can be mended by the second.
-/
import Logline.Proofs.Layout.Roundtrip
import Logline.Proofs.Rendering

namespace Logline.Layout

-- ================================================ two layouts in a row

/-- Two layouts in a row compile to their pieces, glued. -/
theorem compile_append_ok {a b : Text} {first second : Template}
    (ha : compile a = .ok first) (hb : compile b = .ok second) :
    compile (a ++ b)
      = .ok ⟨glue first.pieces second.pieces, a ++ b⟩ := by
  have h := compile_unparse (normalForm_glue (normalForm_of_compile ha)
    (normalForm_of_compile hb))
  rw [unparse_glue, unparse_of_compile ha, unparse_of_compile hb] at h
  exact h

/-- The line of glued pieces is the two lines in a row, and there is one
only if there are both. -/
theorem render_glue_eq_ok_iff (r : Renderer) (event : Event)
    (first second : Template) (layout line : Text) :
    r.render event ⟨glue first.pieces second.pieces, layout⟩ = .ok line
      ↔ ∃ before after, r.render event first = .ok before
        ∧ r.render event second = .ok after ∧ line = before ++ after := by
  have hliteral : ∀ t, r.shownText? event ⟨.text, t⟩ = pure t :=
    fun _ => rfl
  rw [r.render_eq_ok_iff, concatM_glue hliteral]
  constructor
  · intro h
    obtain ⟨before, hbefore, h⟩ := Option.bind_eq_some_iff.1 h
    obtain ⟨after, hafter, h⟩ := Option.bind_eq_some_iff.1 h
    cases h
    exact ⟨before, after, (r.render_eq_ok_iff event first before).2 hbefore,
      (r.render_eq_ok_iff event second after).2 hafter, rfl⟩
  · rintro ⟨before, after, hbefore, hafter, rfl⟩
    rw [(r.render_eq_ok_iff event first before).1 hbefore,
      (r.render_eq_ok_iff event second after).1 hafter]
    rfl

-- ====================================================== the two faults

/-- Farther back, a breach has its fault farther back, at the same
character. -/
theorem Breach.fault_add (b : Breach) (n before : Nat) :
    (b.fault (n + before)).position = n + (b.fault before).position
      ∧ (b.fault (n + before)).identifier
        = (b.fault before).identifier := by
  cases b with
  | unknownIdentifier c rest unknown => exact ⟨rfl, rfl⟩
  | expectedBrace c rest other => exact ⟨rfl, rfl⟩
  | endsAfterPercent => exact ⟨rfl, rfl⟩
  | endsBeforeBrace => exact ⟨rfl, rfl⟩
  | endsInsidePattern pattern unclosed =>
      refine ⟨?_, rfl⟩
      show ((n + before + (pattern.length + 3) : Nat) : Int) = _
      rw [Nat.add_assoc]
      rfl

/-- A fault of the second text is found behind the first. -/
theorem compile_append_of_error_right {a b : Text} {template : Template}
    {fault : Fault} (ha : compile a = .ok template)
    (hb : compile b = .error fault) :
    ∃ fault', compile (a ++ b) = .error fault'
      ∧ fault'.position = a.length + fault.position
      ∧ fault'.identifier = fault.identifier := by
  obtain ⟨atoms, rfl, -⟩ := compile_eq_ok_iff.1 ha
  obtain ⟨more, breach, rfl, rfl⟩ := compile_eq_error_iff.1 hb
  have h := compile_breach (atoms ++ more) breach
  rw [spelled_append, List.append_assoc, List.length_append] at h
  exact ⟨_, h, breach.fault_add _ _⟩

/-- Only at the end of a text is there a fault without a character. -/
theorem run_of_error_at_char {layout : Text} {fault : Fault} {x : Char}
    (h : compile layout = .error fault) (hx : fault.identifier = some x) :
    Scanner.run layout = .error fault := by
  cases hrun : Scanner.run layout with
  | error fault' =>
      rw [compile_of_run_error hrun] at h
      cases h
      rfl
  | ok s =>
      obtain ⟨state, start, pieces⟩ := s
      rw [compile_of_run_ok hrun] at h
      cases state <;> cases h <;> cases hx

/-- A fault at a character of the first text is there whatever follows. -/
theorem compile_append_of_error_left {a : Text} {fault : Fault} {x : Char}
    (ha : compile a = .error fault) (hx : fault.identifier = some x)
    (b : Text) : compile (a ++ b) = .error fault :=
  compile_of_run_error
    (Scanner.run_append_of_error (run_of_error_at_char ha hx) b)

/-- Layouts compose. Behind a layout a text compiles exactly if it does
so alone; its pieces are then glued to the layout's, and its lines follow
the layout's lines, missing where one of the two is missing. If it does
not compile, the fault is the one it has alone, moved behind the layout.
And a fault at a character is the same whatever follows the text. -/
theorem compile_append_exact (a : Text) :
    (∀ first, compile a = .ok first → ∀ b,
        ((∃ whole, compile (a ++ b) = .ok whole)
            ↔ ∃ second, compile b = .ok second)
        ∧ (∀ second, compile b = .ok second →
          compile (a ++ b)
              = .ok ⟨glue first.pieces second.pieces, a ++ b⟩
            ∧ ∀ (r : Renderer) (event : Event) (line : Text),
              r.render event
                  ⟨glue first.pieces second.pieces, a ++ b⟩ = .ok line
                ↔ ∃ before after, r.render event first = .ok before
                  ∧ r.render event second = .ok after
                  ∧ line = before ++ after)
        ∧ ∀ fault, compile b = .error fault →
          ∃ fault', compile (a ++ b) = .error fault'
            ∧ fault'.position = a.length + fault.position
            ∧ fault'.identifier = fault.identifier)
      ∧ ∀ fault x, compile a = .error fault →
        fault.identifier = some x →
        ∀ b, compile (a ++ b) = .error fault := by
  refine ⟨fun first ha b => ⟨?_, ?_, ?_⟩, ?_⟩
  · constructor
    · rintro ⟨whole, hwhole⟩
      cases hb : compile b with
      | ok second => exact ⟨second, rfl⟩
      | error fault =>
          obtain ⟨fault', herror, -⟩ := compile_append_of_error_right ha hb
          rw [hwhole] at herror
          cases herror
    · rintro ⟨second, hb⟩
      exact ⟨_, compile_append_ok ha hb⟩
  · intro second hb
    refine ⟨compile_append_ok ha hb, fun r event line => ?_⟩
    exact render_glue_eq_ok_iff r event first second (a ++ b) line
  · intro fault hb
    exact compile_append_of_error_right ha hb
  · intro fault x ha hx b
    exact compile_append_of_error_left ha hx b

/-- A seam right after a doubled percent sign, in the middle of what
becomes one literal. -/
theorem compile_append_exact_seam :
    (compile ['a', '%', '%', 'b', '%', 'c']).map Template.pieces
      = .ok [⟨.text, ['a', '%', 'b']⟩, ⟨.loggerName, []⟩] := by
  have hfirst : compile ['a', '%', '%']
      = .ok ⟨[⟨.text, ['a', '%']⟩], ['a', '%', '%']⟩ := rfl
  have hsecond : compile ['b', '%', 'c']
      = .ok ⟨[⟨.text, ['b']⟩, ⟨.loggerName, []⟩], ['b', '%', 'c']⟩ := rfl
  have hbehind := (compile_append_exact ['a', '%', '%']).1 _ hfirst
    ['b', '%', 'c']
  obtain ⟨-, hglued, -⟩ := hbehind
  have hwhole := (hglued _ hsecond).1
  show (compile (['a', '%', '%'] ++ ['b', '%', 'c'])).map _ = _
  rw [hwhole]
  rfl

end Logline.Layout
