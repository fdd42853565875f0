/-
The scanner against the grammar: what a compilation answers, for rows of
atoms and for breaches, and hence for every text.

# A scan looks back, never ahead

A step reads the character at its position and cuts runs that end there.
So the scan of a longer text passes through the states of the shorter one
(`run_append`), and adding one character to a text is one more step, on
the text it was added to (`run_snoc`). Only the run's start could break
this, by counting from the end; a start that a scan has set never does.

# Between atoms

After a row of atoms the scanner is in its text state with a run pending,
and its pieces lag behind the row's by exactly that run. `Settled` says
so without the run's bounds: flushed, the pieces are the given ones. Each
atom takes a settled text to a settled text, whose pieces are the atom's
added, and each breach takes a settled text to its fault.
-/
import Logline.Proofs.Layout.Move

namespace Logline.Layout

namespace Scanner

-- ======================================================== looking back

/-- Goes on over the characters that stand from a position on. -/
def scan (s : Scanner) (layout : Text) (position : Nat) (chars : Text) :
    Except Fault Scanner :=
  (chars.zipIdx position).foldlM (fun s (ch, i) => s.advance layout i ch) s

theorem scan_cons (s : Scanner) (layout : Text) (position : Nat) (c : Char)
    (chars : Text) :
    s.scan layout position (c :: chars)
      = s.advance layout position c >>=
          fun s => s.scan layout (position + 1) chars :=
  List.foldlM_cons

theorem scan_append (s : Scanner) (layout : Text) (position : Nat)
    (chars more : Text) :
    s.scan layout position (chars ++ more)
      = s.scan layout position chars >>=
          fun s => s.scan layout (position + chars.length) more := by
  unfold scan
  rw [List.zipIdx_append, List.foldlM_append]

/-- A cut that ends inside a text is the same in a longer one. -/
theorem slice_append {a : Text} {start : Int} {stop : Nat}
    (hstart : 0 ≤ start) (hstop : stop ≤ a.length) (b : Text) :
    slice (a ++ b) start stop = slice a start stop := by
  obtain ⟨n, rfl⟩ := Int.eq_ofNat_of_zero_le hstart
  rw [slice_natCast, slice_natCast, List.take_append_of_le_length hstop]

/-- A step at a position sees nothing of what follows. -/
theorem advance_append {s : Scanner} {a : Text} {i : Nat}
    (hs : 0 ≤ s.start) (hi : i ≤ a.length) (b : Text) (ch : Char) :
    s.advance (a ++ b) i ch = s.advance a i ch := by
  unfold advance
  rw [slice_append hs hi]

/-- Scanning inside a text is the same in a longer one, and leaves the
start of the run where the longer one cannot move it. -/
private theorem scan_longer {a : Text} (b : Text) (chars : Text) :
    ∀ (s : Scanner) (position : Nat), 0 ≤ s.start →
      position + chars.length ≤ a.length →
      s.scan (a ++ b) position chars = s.scan a position chars
        ∧ ∀ s', s.scan a position chars = .ok s' → 0 ≤ s'.start := by
  induction chars with
  | nil =>
      intro s position hs _
      refine ⟨rfl, fun s' h => ?_⟩
      cases h
      exact hs
  | cons c chars ih =>
      intro s position hs hlen
      rw [List.length_cons] at hlen
      rw [scan_cons, scan_cons, advance_append hs (by omega)]
      cases hstep : s.advance a position c with
      | error fault => exact ⟨rfl, fun s' h => nomatch h⟩
      | ok next =>
          exact ih next (position + 1) (start_nonneg_of_advance hs hstep)
            (by omega)

/-- The scan of a longer text goes through that of the shorter one. -/
theorem run_append (a b : Text) :
    run (a ++ b) = run a >>= fun s => s.scan (a ++ b) a.length b := by
  show scan {} (a ++ b) 0 (a ++ b) = scan {} a 0 a >>= _
  have hlonger :=
    (scan_longer b a {} 0 (Int.le_refl 0) (Nat.zero_add _).le).1
  rw [scan_append, hlonger, Nat.zero_add]

theorem start_nonneg_of_run {a : Text} {s : Scanner} (h : run a = .ok s) :
    0 ≤ s.start :=
  (scan_longer [] a {} 0 (Int.le_refl 0) (Nat.zero_add _).le).2 s h

/-- One more character is one more step. -/
theorem run_snoc {a : Text} {s : Scanner} (h : run a = .ok s) (c : Char) :
    run (a ++ [c]) = s.advance a a.length c := by
  have hstep : s.advance (a ++ [c]) a.length c = s.advance a a.length c :=
    advance_append (start_nonneg_of_run h) (Nat.le_refl _) [c] c
  rw [run_append, h]
  show s.scan (a ++ [c]) a.length [c] = _
  rw [scan_cons, hstep]
  exact bind_pure _

/-- One more character after a part of a text. -/
theorem run_append_snoc {a w : Text} {s : Scanner}
    (h : run (a ++ w) = .ok s) (c : Char) :
    run (a ++ (w ++ [c]))
      = s.advance (a ++ w) (a.length + w.length : Nat) c := by
  rw [← List.append_assoc, run_snoc h, List.length_append]

/-- A fault stays, whatever follows it. -/
theorem run_append_of_error {a : Text} {fault : Fault}
    (h : run a = .error fault) (b : Text) : run (a ++ b) = .error fault := by
  rw [run_append, h]
  rfl

end Scanner

open Scanner

/-- A fault of the scan is the answer of the compilation. -/
theorem compile_of_run_error {layout : Text} {fault : Fault}
    (h : run layout = .error fault) : compile layout = .error fault := by
  unfold compile
  rw [h]
  rfl

/-- Without a fault, the scanner's end decides. -/
theorem compile_of_run_ok {layout : Text} {s : Scanner}
    (h : run layout = .ok s) : compile layout = s.finish layout := by
  unfold compile
  rw [h]
  rfl

-- ======================================================= between atoms

/-- The scan of a text ends between atoms, and with the pending run
flushed its pieces are the given ones. -/
def Settled (t : Text) (pieces : List Piece) : Prop :=
  ∃ (start : Nat) (emitted : List Piece),
    run t = .ok ⟨.text, start, emitted⟩ ∧ start ≤ t.length
      ∧ addText emitted (t.drop start) = pieces

namespace Settled

variable {t : Text} {pieces : List Piece}

/-- The end of a text is the same cut for the scanner as for a list. -/
private theorem slice_to_end (t : Text) (start : Nat) :
    slice t start t.length = t.drop start := by
  rw [slice_natCast, List.take_length]

theorem compile_eq (h : Settled t pieces) :
    compile t = .ok ⟨pieces, t⟩ := by
  obtain ⟨start, emitted, hrun, -, rfl⟩ := h
  rw [compile_of_run_ok hrun]
  show Except.ok (Template.mk (addText emitted (slice t start t.length)) t)
    = _
  rw [slice_to_end]

theorem nil : Settled [] [] :=
  ⟨0, [], rfl, Nat.le_refl 0, rfl⟩

/-- An ordinary character only lengthens the run. -/
theorem plain (h : Settled t pieces) {c : Char} (hc : c ≠ '%') :
    Settled (t ++ [c]) (addText pieces [c]) := by
  obtain ⟨start, emitted, hrun, hle, rfl⟩ := h
  refine ⟨start, emitted, ?_, ?_, ?_⟩
  · rw [run_snoc hrun]
    exact if_neg hc
  · rw [List.length_append]
    omega
  · rw [List.drop_append_of_le_length hle, addText_addText]

/-- A percent sign flushes the run. Where it started is forgotten by
every way on. -/
theorem run_percent (h : Settled t pieces) :
    ∃ start, run (t ++ ['%']) = .ok ⟨.afterPercent, start, pieces⟩ := by
  obtain ⟨start, emitted, hrun, -, rfl⟩ := h
  refine ⟨start, ?_⟩
  rw [run_snoc hrun, ← slice_to_end]
  rfl

/-- The second percent sign of a pair is the first character of a run. -/
theorem percent (h : Settled t pieces) :
    Settled (t ++ ['%', '%']) (addText pieces ['%']) := by
  obtain ⟨start, hrun⟩ := h.run_percent
  refine ⟨t.length + 1, pieces, run_append_snoc hrun '%', ?_, ?_⟩
  · rw [List.length_append]
    exact Nat.le_succ _
  · rw [List.drop_length_add_append]
    rfl

/-- The letter of a field adds its placeholder. -/
theorem field (h : Settled t pieces) (f : Field) :
    Settled (t ++ ['%', f.letter]) (addPlaceholder pieces f.kind []) := by
  obtain ⟨start, hrun⟩ := h.run_percent
  refine ⟨t.length + 2, addPlaceholder pieces f.kind [], ?_, ?_, ?_⟩
  · refine (run_append_snoc hrun f.letter).trans ?_
    cases f <;> rfl
  · rw [List.length_append]
    exact Nat.le_refl _
  · rw [List.drop_length_add_append]
    exact addText_nil _

/-- A date placeholder waits for its brace. -/
theorem run_date (h : Settled t pieces) :
    run (t ++ ['%', 'd'])
      = .ok ⟨.expectBrace, (t.length + 2 : Nat), pieces⟩ := by
  obtain ⟨start, hrun⟩ := h.run_percent
  exact run_append_snoc hrun 'd'

/-- The characters of a date pattern only lengthen the run that starts
after the brace. -/
theorem run_pattern (h : Settled t pieces) {pattern : Text}
    (hp : '\x7d' ∉ pattern) :
    run (t ++ '%' :: 'd' :: '\x7b' :: pattern)
      = .ok ⟨.insidePattern, (t.length + 3 : Nat), pieces⟩ := by
  induction pattern using List.reverseRecOn with
  | nil => exact run_append_snoc h.run_date '\x7b'
  | append_singleton pattern c ih =>
      rw [List.mem_append, List.mem_singleton, not_or] at hp
      refine (run_append_snoc (ih hp.1) c).trans ?_
      exact if_neg fun hc => hp.2 hc.symm

/-- The closing brace adds the timestamp, with the run as its pattern. -/
theorem date (h : Settled t pieces) {pattern : Text}
    (hp : '\x7d' ∉ pattern) :
    Settled (t ++ '%' :: 'd' :: '\x7b' :: (pattern ++ ['\x7d']))
      (addPlaceholder pieces .timestamp pattern) := by
  have hrun := h.run_pattern hp
  have hcut : slice (t ++ '%' :: 'd' :: '\x7b' :: pattern)
      (t.length + 3 : Nat)
      (t ++ '%' :: 'd' :: '\x7b' :: pattern).length = pattern := by
    rw [slice_to_end, List.drop_length_add_append]
    rfl
  have hlen : (t ++ '%' :: 'd' :: '\x7b' :: (pattern ++ ['\x7d'])).length
      = t.length + (pattern.length + 4) := by
    simp only [List.length_append, List.length_cons, List.length_nil]
  refine ⟨t.length + (pattern.length + 4),
    addPlaceholder pieces .timestamp pattern, ?_, hlen.ge, ?_⟩
  · refine (run_append_snoc hrun '\x7d').trans ?_
    rw [← List.length_append]
    show Except.ok (Scanner.mk .text _ (addPlaceholder pieces .timestamp
      (slice _ (t.length + 3 : Nat) _))) = _
    rw [hcut, List.length_append]
    rfl
  · rw [← hlen, List.drop_length, addText_nil]

/-- An atom adds its pieces. -/
theorem atom (h : Settled t pieces) (a : Atom) :
    Settled (t ++ a.spelling) (a.addTo pieces) := by
  cases a with
  | plain c ordinary => exact h.plain ordinary
  | percent => exact h.percent
  | field f => exact h.field f
  | date pattern closed => exact h.date closed

/-- A row of atoms is settled on its pieces. -/
theorem row (atoms : List Atom) :
    Settled (spelled atoms) (piecesOf atoms) := by
  induction atoms using List.reverseRecOn with
  | nil => exact nil
  | append_singleton atoms a ih =>
      rw [spelled_append, spelled_singleton, piecesOf_snoc]
      exact ih.atom a

end Settled

-- =================================================== rows and breaches

/-- The fault of a breach that has some characters before it. -/
def Breach.fault (before : Nat) : Breach → Fault
  | unknownIdentifier c _ _ => .unknownIdentifier c (before + 1 : Nat)
  | expectedBrace c _ _ => .expectedBrace c (before + 2 : Nat)
  | endsAfterPercent => .endsAfterPercent (before + 1)
  | endsBeforeBrace => .endsBeforeBrace (before + 2)
  | endsInsidePattern pattern _ =>
    .endsInsidePattern (before + 3 : Nat) (before + (pattern.length + 3))

/-- A row of atoms compiles to its pieces. -/
theorem compile_spelled (atoms : List Atom) :
    compile (spelled atoms) = .ok ⟨piecesOf atoms, spelled atoms⟩ :=
  (Settled.row atoms).compile_eq

/-- A character that no field has is no placeholder to the scanner. -/
private theorem placeholder?_eq_none {c : Char}
    (hc : ∀ f : Field, c ≠ f.letter) : placeholder? c = none := by
  cases hkind : placeholder? c with
  | none => rfl
  | some kind =>
      obtain ⟨f, hf, -⟩ := exists_field_of_placeholder? hkind
      exact absurd hf (hc f)

/-- A breach after a row of atoms is a fault at its own place. -/
theorem compile_breach (atoms : List Atom) (b : Breach) :
    compile (spelled atoms ++ b.text)
      = .error (b.fault (spelled atoms).length) := by
  have h := Settled.row atoms
  cases b with
  | unknownIdentifier c rest unknown =>
      obtain ⟨hpercent, hdate, hfield⟩ := unknown
      obtain ⟨start, hrun⟩ := h.run_percent
      have herror : run (spelled atoms ++ ['%', c])
          = .error
            (.unknownIdentifier c ((spelled atoms).length + 1 : Nat)) := by
        refine (run_append_snoc hrun c).trans ?_
        show (if c = '%' then _ else if c = 'd' then _ else _) = _
        rw [if_neg hpercent, if_neg hdate, placeholder?_eq_none hfield]
        rfl
      have hall := compile_of_run_error (run_append_of_error herror rest)
      rw [List.append_assoc] at hall
      exact hall
  | expectedBrace c rest other =>
      have herror : run (spelled atoms ++ ['%', 'd', c])
          = .error (.expectedBrace c ((spelled atoms).length + 2 : Nat)) :=
        (run_append_snoc h.run_date c).trans (if_neg other)
      have hall := compile_of_run_error (run_append_of_error herror rest)
      rw [List.append_assoc] at hall
      exact hall
  | endsAfterPercent =>
      obtain ⟨start, hrun⟩ := h.run_percent
      rw [Breach.text, compile_of_run_ok hrun]
      show Except.error (Fault.endsAfterPercent _) = _
      rw [List.length_append]
      rfl
  | endsBeforeBrace =>
      rw [Breach.text, compile_of_run_ok h.run_date]
      show Except.error (Fault.endsBeforeBrace _) = _
      rw [List.length_append]
      rfl
  | endsInsidePattern pattern unclosed =>
      rw [Breach.text, compile_of_run_ok (h.run_pattern unclosed)]
      show Except.error (Fault.endsInsidePattern _ _) = _
      rw [List.length_append]
      rfl

/-- What compiles is a row of atoms, and what it compiles to is the row's
pieces. -/
theorem compile_eq_ok_iff {layout : Text} {template : Template} :
    compile layout = .ok template
      ↔ ∃ atoms, layout = spelled atoms
        ∧ template = ⟨piecesOf atoms, layout⟩ := by
  constructor
  · intro h
    obtain ⟨atoms, hrow | ⟨b, hbreach⟩⟩ := readable layout
    · rw [hrow, compile_spelled] at h
      cases h
      exact ⟨atoms, hrow, by rw [hrow]⟩
    · rw [hbreach, compile_breach] at h
      cases h
  · rintro ⟨atoms, rfl, rfl⟩
    exact compile_spelled atoms

/-- What does not compile has a breach after a row of atoms, and the
fault is the breach's. -/
theorem compile_eq_error_iff {layout : Text} {fault : Fault} :
    compile layout = .error fault
      ↔ ∃ atoms, ∃ b : Breach, layout = spelled atoms ++ b.text
        ∧ fault = b.fault (spelled atoms).length := by
  constructor
  · intro h
    obtain ⟨atoms, hrow | ⟨b, hbreach⟩⟩ := readable layout
    · rw [hrow, compile_spelled] at h
      cases h
    · rw [hbreach, compile_breach] at h
      cases h
      exact ⟨atoms, b, hbreach, rfl⟩
  · rintro ⟨atoms, b, rfl, rfl⟩
    exact compile_breach atoms b

end Logline.Layout
