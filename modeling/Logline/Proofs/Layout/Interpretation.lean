/-
Rendering a compiled layout is interpreting the layout. The interpreter
knows no pieces and no positions: it takes the next atom off the text,
shows what the atom means, and goes on with the rest, once from left to
right.

The two meet at the row of atoms. The interpreter takes a row apart again
(`nextAtom?_spelling`), so it shows the row's meanings in order; and what
the row's pieces show is the same, because an atom's piece shows the
atom's meaning and a merged literal shows its parts. The row is that of
the layout alone. Whatever an event or a configuration puts into a line
is put there as it is, and no part of it is read as a layout.
-/
import Logline.Proofs.Layout.Scan
import Logline.Proofs.Rendering
import Mathlib.Data.List.TakeWhile

namespace Logline.Layout

-- ======================================================= the next atom

/-- The field that a letter asks for. -/
def Field.ofLetter? : Char → Option Field
  | 'c' => some .loggerName
  | 'p' => some .level
  | 'm' => some .message
  | _ => none

/-- The date atom whose pattern, with its brace, a text begins with, and
what follows it. -/
def datePattern? : Text → Option (Atom × Text)
  | [] => none
  | brace :: t =>
    if brace = '\x7b' ∧ '\x7d' ∈ t then
      some (.date (t.takeWhile (· ≠ '\x7d'))
          (fun h => by simpa using List.mem_takeWhile_imp h),
        (t.dropWhile (· ≠ '\x7d')).tail)
    else none

/-- The atom that goes on after a percent sign, and what follows it. -/
def afterPercent? : Text → Option (Atom × Text)
  | [] => none
  | c :: t =>
    if c = '%' then some (.percent, t)
    else if c = 'd' then datePattern? t
    else (Field.ofLetter? c).map fun f => (.field f, t)

/-- The atom that a text begins with, and what follows it. -/
def nextAtom? : Text → Option (Atom × Text)
  | [] => none
  | c :: t => if h : c = '%' then afterPercent? t else some (.plain c h, t)

theorem Field.ofLetter?_eq_some {c : Char} {f : Field}
    (h : Field.ofLetter? c = some f) : c = f.letter := by
  unfold Field.ofLetter? at h
  split at h
  all_goals cases h
  all_goals rfl

/-- The cut at a first closing brace gives back what stands on its two
sides. -/
private theorem cut_at_brace {pattern : Text} (closed : '\x7d' ∉ pattern)
    (rest : Text) :
    (pattern ++ '\x7d' :: rest).takeWhile (· ≠ '\x7d') = pattern
      ∧ (pattern ++ '\x7d' :: rest).dropWhile (· ≠ '\x7d')
        = '\x7d' :: rest := by
  have hopen : ∀ c ∈ pattern, decide (c ≠ '\x7d') = true := by
    intro c hc
    exact decide_eq_true fun heq => closed (heq ▸ hc)
  rw [List.takeWhile_append_of_pos hopen, List.dropWhile_append_of_pos hopen]
  exact ⟨List.append_nil _, rfl⟩

/-- A closed pattern is read up to its brace. -/
private theorem datePattern?_closed {pattern : Text}
    (closed : '\x7d' ∉ pattern) (rest : Text) :
    datePattern? ('\x7b' :: (pattern ++ '\x7d' :: rest))
      = some (.date pattern closed, rest) := by
  have hmem : '\x7d' ∈ pattern ++ '\x7d' :: rest :=
    List.mem_append_right _ List.mem_cons_self
  obtain ⟨htake, hdrop⟩ := cut_at_brace closed rest
  rw [datePattern?, if_pos ⟨rfl, hmem⟩]
  simp only [htake, hdrop, List.tail_cons]

/-- An atom is read back from its spelling, whatever follows. -/
theorem nextAtom?_spelling (a : Atom) (rest : Text) :
    nextAtom? (a.spelling ++ rest) = some (a, rest) := by
  cases a with
  | plain c ordinary => exact dif_neg ordinary
  | percent => rfl
  | field f => cases f <;> rfl
  | date pattern closed =>
      show datePattern? ('\x7b' :: (pattern ++ ['\x7d'] ++ rest)) = _
      rw [List.append_assoc]
      exact datePattern?_closed closed rest

/-- What is read as a date atom is its spelling. -/
private theorem eq_spelling_of_datePattern? {t rest : Text} {a : Atom}
    (h : datePattern? t = some (a, rest)) :
    '%' :: 'd' :: t = a.spelling ++ rest := by
  cases t with
  | nil => cases h
  | cons brace t =>
      by_cases hbrace : brace = '\x7b' ∧ '\x7d' ∈ t
      · obtain ⟨rfl, hmem⟩ := hbrace
        obtain ⟨pattern, after, rfl, closed⟩ :=
          List.eq_append_cons_of_mem hmem
        rw [datePattern?_closed closed] at h
        cases h
        simp only [Atom.spelling, List.cons_append, List.append_assoc,
          List.nil_append]
      · rw [datePattern?, if_neg hbrace] at h
        cases h

/-- What is read as an atom after a percent sign is its spelling. -/
private theorem eq_spelling_of_afterPercent? {t rest : Text} {a : Atom}
    (h : afterPercent? t = some (a, rest)) :
    '%' :: t = a.spelling ++ rest := by
  cases t with
  | nil => cases h
  | cons c t =>
      by_cases hpercent : c = '%'
      · rw [afterPercent?, if_pos hpercent] at h
        cases h
        rw [hpercent]
        rfl
      · by_cases hdate : c = 'd'
        · rw [afterPercent?, if_neg hpercent, if_pos hdate] at h
          rw [hdate]
          exact eq_spelling_of_datePattern? h
        · rw [afterPercent?, if_neg hpercent, if_neg hdate] at h
          obtain ⟨f, hf, hrest⟩ := Option.map_eq_some_iff.1 h
          cases hrest
          rw [Field.ofLetter?_eq_some hf]
          rfl

/-- What is read as an atom is its spelling. -/
theorem eq_spelling_of_nextAtom? {t rest : Text} {a : Atom}
    (h : nextAtom? t = some (a, rest)) : t = a.spelling ++ rest := by
  cases t with
  | nil => cases h
  | cons c t =>
      by_cases hc : c = '%'
      · rw [nextAtom?, dif_pos hc] at h
        rw [hc]
        exact eq_spelling_of_afterPercent? h
      · rw [nextAtom?, dif_neg hc] at h
        cases h
        rfl

theorem Atom.spelling_ne_nil (a : Atom) : a.spelling ≠ [] := by
  cases a <;> exact List.cons_ne_nil _ _

/-- Reading an atom shortens the text. -/
theorem length_of_nextAtom? {t rest : Text} {a : Atom}
    (h : nextAtom? t = some (a, rest)) : rest.length < t.length := by
  have hpos := List.length_pos_of_ne_nil a.spelling_ne_nil
  rw [eq_spelling_of_nextAtom? h, List.length_append]
  omega

-- ===================================================== the interpreter

section Interpret

variable {m : Type → Type} [Monad m]

/-- Goes over a layout once and shows what its atoms mean, one after
another. There is nothing to show of a text that is no layout. -/
def interpret (meaning : Atom → m Text) (layout : Text) :
    Option (m Text) :=
  match _h : nextAtom? layout with
  | some (a, rest) =>
    (interpret meaning rest).map fun line => do
      let first ← meaning a
      let others ← line
      return first ++ others
  | none => if layout = [] then some (pure []) else none
termination_by layout.length
decreasing_by exact length_of_nextAtom? ‹_›

/-- An atom in front is shown before the rest. -/
theorem interpret_cons (meaning : Atom → m Text) (a : Atom) (rest : Text) :
    interpret meaning (a.spelling ++ rest)
      = (interpret meaning rest).map fun line => do
          let first ← meaning a
          let others ← line
          return first ++ others := by
  rw [interpret]
  split
  · next a' rest' h =>
    rw [nextAtom?_spelling] at h
    cases h
    rfl
  · next h =>
    rw [nextAtom?_spelling] at h
    cases h

/-- A row of atoms is interpreted as the meanings of its atoms. -/
theorem interpret_spelled (meaning : Atom → m Text) (atoms : List Atom) :
    interpret meaning (spelled atoms) = some (concatM meaning atoms) := by
  induction atoms with
  | nil =>
      show interpret meaning [] = some (pure [])
      rw [interpret]
      rfl
  | cons a atoms ih =>
      rw [spelled_cons, interpret_cons, ih]
      rfl

/-- What can be interpreted is a row of atoms. -/
theorem exists_row_of_interpret {meaning : Atom → m Text} {layout : Text}
    {line : m Text} (h : interpret meaning layout = some line) :
    ∃ atoms, layout = spelled atoms := by
  induction hn : layout.length using Nat.strong_induction_on
    generalizing layout line with
  | _ n ih =>
      subst hn
      rw [interpret] at h
      split at h
      · next a rest hnext =>
        obtain ⟨after, hafter, -⟩ := Option.map_eq_some_iff.1 h
        obtain ⟨atoms, rfl⟩ :=
          ih rest.length (length_of_nextAtom? hnext) hafter rfl
        exact ⟨a :: atoms, eq_spelling_of_nextAtom? hnext⟩
      · split at h
        · next hnil => exact ⟨[], hnil⟩
        · cases h

end Interpret

end Logline.Layout

namespace Logline

open Layout

-- ================================================= pieces and meanings

namespace Renderer

variable (r : Renderer) (event : Event)

/-- What an atom means for an event: itself, or the field it asks for. -/
def meaning : Atom → Except RenderError Text
  | .plain c _ => .ok [c]
  | .percent => .ok ['%']
  | .field .loggerName => .ok event.loggerName.display
  | .field .level => r.levelName event.level
  | .field .message => .ok event.payload.display
  | .date pattern _ => .ok (r.style.format event.timestamp pattern)

/-- What an atom adds to the pieces shows the atom's meaning at the end,
be it a piece of its own or a part of the literal before. -/
theorem concatM_addTo (pieces : List Piece) (a : Atom) :
    concatM (r.showText event) (a.addTo pieces) = do
      let line ← concatM (r.showText event) pieces
      let last ← r.meaning event a
      return line ++ last := by
  have hliteral : ∀ t, r.showText event ⟨.text, t⟩ = pure t :=
    fun _ => rfl
  cases a with
  | plain c ordinary => exact concatM_addText hliteral pieces [c]
  | percent => exact concatM_addText hliteral pieces ['%']
  | field f =>
      show concatM _ (pieces ++ [⟨f.kind, []⟩]) = _
      rw [concatM_snoc]
      cases f <;> rfl
  | date pattern closed =>
      show concatM _ (pieces ++ [⟨.timestamp, pattern⟩]) = _
      rw [concatM_snoc]
      rfl

/-- The pieces of a row show what the row means. -/
theorem concatM_piecesOf (atoms : List Atom) :
    concatM (r.showText event) (piecesOf atoms)
      = concatM (r.meaning event) atoms := by
  induction atoms using List.reverseRecOn with
  | nil => rfl
  | append_singleton atoms a ih =>
      rw [piecesOf_snoc, concatM_addTo, ih, concatM_snoc]

/-- The line of a compiled row. -/
theorem render_piecesOf {name : Text}
    (hname : event.loggerName = .text name) (atoms : List Atom)
    (layout : Text) :
    r.render event ⟨piecesOf atoms, layout⟩
      = concatM (r.meaning event) atoms := by
  rw [r.render_eq_concatM event hname, concatM_piecesOf]

/-- The compiled rendering and the interpretation agree on every text:
both are there or neither is. -/
theorem map_render_compile {name : Text}
    (hname : event.loggerName = .text name) (layout : Text) :
    (compile layout).toOption.map (r.render event)
      = interpret (r.meaning event) layout := by
  cases h : compile layout with
  | ok template =>
      obtain ⟨atoms, rfl, rfl⟩ := compile_eq_ok_iff.1 h
      rw [interpret_spelled, ← r.render_piecesOf event hname]
      rfl
  | error fault =>
      cases hline : interpret (r.meaning event) layout with
      | none => rfl
      | some line =>
          obtain ⟨atoms, rfl⟩ := exists_row_of_interpret hline
          rw [compile_spelled] at h
          cases h

end Renderer

-- ===================================================== what is asked for

/-- Do two events agree on the field that an atom asks for, if it asks
for one? -/
def Layout.Atom.SameField (event event' : Event) : Atom → Prop
  | .plain _ _ => True
  | .percent => True
  | .field .loggerName => event.loggerName = event'.loggerName
  | .field .level => event.level = event'.level
  | .field .message => event.payload = event'.payload
  | .date _ _ => event.timestamp = event'.timestamp

/-- An atom means the same for events that agree on its field. -/
theorem Renderer.meaning_congr (r : Renderer) {event event' : Event}
    {a : Atom} (h : a.SameField event event') :
    r.meaning event a = r.meaning event' a := by
  cases a with
  | plain c ordinary => rfl
  | percent => rfl
  | field f =>
      cases f with
      | loggerName =>
          exact congrArg (fun name => Except.ok (Value.display name)) h
      | level => exact congrArg r.levelName h
      | message =>
          exact congrArg (fun payload => Except.ok (Value.display payload)) h
  | date pattern closed =>
      exact congrArg (fun t => Except.ok (r.style.format t pattern)) h

/-- Rendering a compiled layout is interpreting the layout, for every
event whose logger name is a text and every configuration whose date
style is known, which is what makes it a renderer. The atoms are those of
the layout alone: what an event or a configuration puts in place of one
is never read again, and events that agree on the fields that the atoms
ask for have the same line or the same error. -/
theorem render_eq_interpret (layout : Text) :
    (∀ (r : Renderer) (event : Event) (name : Text),
        event.loggerName = .text name →
        (compile layout).toOption.map (r.render event)
          = interpret (r.meaning event) layout)
      ∧ ∀ template, compile layout = .ok template →
        ∃ atoms, layout = spelled atoms
          ∧ (∀ (r : Renderer) (event : Event) (name : Text),
            event.loggerName = .text name →
            r.render event template = concatM (r.meaning event) atoms)
          ∧ ∀ (r : Renderer) (event event' : Event) (name name' : Text),
            event.loggerName = .text name →
            event'.loggerName = .text name' →
            (∀ a ∈ atoms, a.SameField event event') →
            r.render event template = r.render event' template := by
  refine ⟨?_, ?_⟩
  · intro r event name hname
    exact r.map_render_compile event hname layout
  · intro template h
    obtain ⟨atoms, rfl, rfl⟩ := compile_eq_ok_iff.1 h
    refine ⟨atoms, rfl, ?_, ?_⟩
    · intro r event name hname
      exact r.render_piecesOf event hname atoms _
    · intro r event event' name name' hname hname' hsame
      rw [r.render_piecesOf event hname, r.render_piecesOf event' hname']
      exact concatM_congr fun a ha => r.meaning_congr (hsame a ha)

/-- A logger that is called like a placeholder stands in the line as it
is called. -/
theorem render_eq_interpret_placeholder :
    (compile ['%', 'c', '%', '%']).toOption.map
        ((⟨{}, .directives, rfl⟩ : Renderer).render
          ⟨.text ['%', 'm'], .first, .number 3, .text ['x']⟩)
      = some (.ok ['%', 'm', '%']) := by
  have h := (render_eq_interpret (spelled [.field .loggerName, .percent])).1
    ⟨{}, .directives, rfl⟩
    ⟨.text ['%', 'm'], .first, .number 3, .text ['x']⟩ ['%', 'm'] rfl
  rw [interpret_spelled] at h
  exact h

end Logline
