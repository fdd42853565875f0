/-
What an output is put together from: the line of the record, the text of
its failure and that of its stack. Nothing else is in it but newlines, at
most one in front of each text below the line: there is one exactly where a
text follows that is not empty and what stands so far does not end in one.
So a text that is there starts a line of its own, and nothing of the three
is lost.

That is also how the usual formatter of logs goes about it, which looks at
the last character of what it has so far and adds to it (`usualOutput`).
Given the same line the two agree, failures included (`format_eq_usual`).
-/
import Logline.Proofs.Formatter.Sorting

namespace Logline

-- ============================================================ the parts

/-- The newline that is needed between a text and a part below it. -/
def gap (t part : Text) : Text :=
  if part ≠ [] ∧ t.getLast? ≠ some '\n' then ['\n'] else []

theorem appendPart_eq (t part : Text) :
    appendPart t part = t ++ gap t part ++ part := by
  unfold appendPart gap
  by_cases hpart : part = []
  · rw [if_pos hpart, if_neg fun h => h.1 hpart, hpart, List.append_nil,
      List.append_nil]
  · rw [if_neg hpart]
    by_cases hline : t.getLast? = some '\n'
    · rw [if_pos hline, if_neg fun h => h.2 hline, List.append_nil]
    · rw [if_neg hline, if_pos ⟨hpart, hline⟩, List.append_assoc]
      rfl

theorem length_gap_le (t part : Text) : (gap t part).length ≤ 1 := by
  unfold gap
  split
  · exact Nat.le_refl 1
  · exact Nat.zero_le 1

/-- A part that is there starts a line. -/
theorem getLast?_append_gap (t : Text) {part : Text} (h : part ≠ []) :
    (t ++ gap t part).getLast? = some '\n' := by
  unfold gap
  by_cases hline : t.getLast? = some '\n'
  · rw [if_neg fun hgap => hgap.2 hline, List.append_nil, hline]
  · rw [if_pos ⟨h, hline⟩, List.getLast?_concat]

namespace Record

/-- The text for the failure of a record: what is kept, if it is not empty,
or else what is made of the failure, if there is one. -/
def failurePart (r : Record) : Except Failure.TextError Text :=
  if r.failureText.getD [] ≠ [] then .ok (r.failureText.getD [])
  else r.failure.elim (.ok []) Attachment.text

/-- The part of a failure is the text that the record has for it. -/
theorem failurePart_eq (r : Record) :
    r.failurePart = r.currentFailureText.map (·.getD []) := by
  unfold failurePart
  by_cases hkept : r.failureText.getD [] = []
  · rw [if_neg fun h => h hkept]
    cases hfailure : r.failure with
    | none =>
        rw [currentFailureText_of_no_failure hfailure]
        exact congrArg Except.ok hkept.symm
    | some attachment =>
        rw [currentFailureText_of_empty hfailure hkept]
        show attachment.text = _
        cases attachment.text <;> rfl
  · rw [if_pos hkept, currentFailureText_of_kept hkept]
    rfl

end Record

-- ==================================================== the usual formatter

/-- How the usual formatter of logs adds a part to a text: it looks at the
last character, adds a newline if that is none, and then adds the part. -/
def addPart (t part : Text) : Text := Id.run do
  let mut s := t
  if part ≠ [] then
    if s.drop (s.length - 1) ≠ ['\n'] then
      s := s ++ ['\n']
    s := s ++ part
  return s

/-- The output that the usual formatter makes of a line. The text of the
failure is made if there is a failure and no text of it yet. -/
def usualOutput (line : Text) (r : Record) :
    Except Failure.TextError Text := do
  let mut failure := r.failureText.getD []
  if let some attachment := r.failure then
    if failure = [] then
      failure ← attachment.text
  return addPart (addPart line failure) (r.stack.getD [])

theorem drop_length_sub_one_eq_iff (t : Text) (c : Char) :
    t.drop (t.length - 1) = [c] ↔ t.getLast? = some c := by
  rcases List.eq_nil_or_concat' t with rfl | ⟨front, last, rfl⟩
  · exact ⟨nofun, nofun⟩
  · rw [List.getLast?_concat, List.length_append, List.length_singleton,
      Nat.add_sub_cancel, List.drop_left, List.singleton_inj,
      Option.some.injEq]

theorem addPart_eq (t part : Text) : addPart t part = appendPart t part := by
  have hlast := drop_length_sub_one_eq_iff t '\n'
  unfold addPart appendPart
  by_cases hpart : part = []
  · rw [if_pos hpart, if_neg fun h => h hpart]
    rfl
  · rw [if_neg hpart, if_pos hpart]
    by_cases hline : t.getLast? = some '\n'
    · rw [if_pos hline, if_neg fun h => h (hlast.2 hline)]
      rfl
    · rw [if_neg hline, if_pos fun h => hline (hlast.1 h)]
      exact List.append_assoc t ['\n'] part

/-- The usual output has the parts of a failure and of the stack behind
the line, as far as there are such. -/
theorem usualOutput_eq (line : Text) (r : Record) :
    usualOutput line r
      = r.failurePart.map fun failure =>
        appendPart (appendPart line failure) (r.stack.getD []) := by
  unfold usualOutput Record.failurePart
  simp only [addPart_eq]
  cases r.failure with
  | none =>
      by_cases hkept : r.failureText.getD [] = []
      · rw [if_neg fun h => h hkept, hkept]
        rfl
      · rw [if_pos hkept]
        rfl
  | some attachment =>
      by_cases hkept : r.failureText.getD [] = []
      · rw [if_neg fun h => h hkept]
        dsimp only
        rw [if_pos hkept]
        show _ = attachment.text.map _
        cases attachment.text <;> rfl
      · rw [if_pos hkept]
        dsimp only
        rw [if_neg hkept]
        rfl

-- ============================================================== outputs

/-- What is put out for a record is what the usual formatter makes of its
line, and what is kept of the failure does not matter to that. -/
theorem format_eq_usual (f : Formatter) (r : Record) :
    (f.format r).map Prod.fst
      = f.eventLine r >>= fun line =>
        (usualOutput line r).mapError .badFailure := by
  simp only [usualOutput_eq, r.failurePart_eq]
  unfold Formatter.format
  cases f.eventLine r with
  | error why => rfl
  | ok line =>
      show Except.map Prod.fst (_ >>= _) = _
      cases r.currentFailureText <;> rfl

/-- An output is the line of the record, the text of its failure and that
of its stack, with a newline in front of each of the latter exactly where
it is not empty and what stands so far does not end in one. So the line
starts the output, a text that is there starts a line of its own and the
last of them ends the output, and no more than two characters are added.
The usual formatter puts out the same, and has none where there is none
here. -/
theorem format_parts (f : Formatter) (r : Record) :
    ((f.format r).map Prod.fst
        = f.eventLine r >>= fun line =>
          (usualOutput line r).mapError .badFailure)
      ∧ ∀ s after, f.format r = .ok (s, after) →
        ∃ line failure stack gap gap' : Text,
          f.eventLine r = .ok line ∧ r.failurePart = .ok failure
            ∧ r.stack.getD [] = stack
            ∧ s = line ++ gap ++ failure ++ gap' ++ stack
            ∧ (gap = if failure ≠ [] ∧ line.getLast? ≠ some '\n'
                then ['\n'] else [])
            ∧ (gap' = if stack ≠ []
                  ∧ (line ++ gap ++ failure).getLast? ≠ some '\n'
                then ['\n'] else [])
            ∧ line <+: s ∧ stack <:+ s
            ∧ (failure ≠ [] → (line ++ gap).getLast? = some '\n')
            ∧ (stack ≠ [] →
              (line ++ gap ++ failure ++ gap').getLast? = some '\n')
            ∧ s.length ≤ line.length + failure.length + stack.length + 2
            ∧ usualOutput line r = .ok s := by
  refine ⟨format_eq_usual f r, fun s after h => ?_⟩
  obtain ⟨line, kept, hline, hkept, -, rfl⟩ := Formatter.format_eq_ok_iff.1 h
  have hfailure : r.failurePart = .ok (kept.getD []) := by
    rw [r.failurePart_eq, hkept]
    rfl
  have husual : usualOutput line r
      = .ok (appendPart (appendPart line (kept.getD []))
        (r.stack.getD [])) := by
    rw [usualOutput_eq, hfailure]
    rfl
  rw [appendPart_eq, appendPart_eq] at husual ⊢
  refine ⟨line, _, _, _, _, hline, hfailure, rfl, rfl, rfl, rfl, ?_,
    List.suffix_append _ _, getLast?_append_gap line, getLast?_append_gap _,
    ?_, husual⟩
  · simp only [List.append_assoc, List.prefix_append]
  · have hgap := length_gap_le line (kept.getD [])
    have hgap' := length_gap_le (line ++ gap line (kept.getD [])
      ++ kept.getD []) (r.stack.getD [])
    simp only [List.length_append] at hgap' ⊢
    omega

/-- Below an empty line there is a newline, and below a text that ends in
one there is none. -/
theorem format_parts_empty_line :
    let f : Formatter := ⟨⟨[⟨.message, []⟩], "%m"⟩, ⟨{}, .directives, rfl⟩⟩
    let r : Record :=
      { quietRecord 0 (some "stack") with failureText := some "kept\n" }
    f.format r = .ok ("\nkept\nstack", r)
      ∧ f.eventLine r = .ok [] ∧ r.failurePart = .ok "kept\n"
      ∧ usualOutput [] r = .ok "\nkept\nstack" := by
  intro f r
  have hline : f.eventLine r = .ok [] := by decide +kernel
  have hformat : f.format r = .ok ("\nkept\nstack", r) :=
    Formatter.format_eq_ok_iff.2 ⟨[], some "kept\n", hline, rfl, rfl, rfl⟩
  obtain ⟨line, failure, -, -, -, hline', hfailure, -, -, -, -, -, -, -, -, -,
    husual⟩ := (format_parts f r).2 _ _ hformat
  cases hline.symm.trans hline'
  exact ⟨hformat, hline, rfl, husual⟩

end Logline
