/-
What becomes of the words of a command line.

# Roles

Each word gets its role by itself, as long as no word ends the options. A
word that names an option in full before an equals sign is that option
with the rest of the word as its value, whatever the value is
(`roleOf_valued`). A grammar whose only option asks for help finds a role
for every word, since one name alone cannot be ambiguous
(`exists_classify`).

# Words that are kept

Such a grammar, where its place is not for a single word, drops no word:
each is placed or set aside, in order (`Progress.Keeps`). So when nothing
is set aside the placed words are the whole line (`placed_of_read`). Where
there is no place at all nothing can be placed (`Progress.Idle`).

# The word of a command

After the word of a command all others are gathered behind it whatever
their roles are, and so a line that starts with that word is read by the
command's own grammar (`read_command`). No other line but the one word
asks for the server (`read_eq_serve_iff`): that word must stand first, and
the words after it would be set aside.
-/
import Logline.Command
import Logline.Proofs.Chain
import Mathlib.Data.List.TakeDrop
import Mathlib.Data.List.TakeWhile

namespace Logline

/-- A text is cut where its separator stands first. -/
theorem Text.cutAt_append {sep : Char} {before : Text} (h : sep ∉ before)
    (after : Text) :
    Text.cutAt sep (before ++ sep :: after) = (before, some after) := by
  have hbefore : ∀ c ∈ before, (c != sep) = true := by
    intro c hc
    exact bne_iff_ne.2 fun heq => h (heq ▸ hc)
  have hspan : (before ++ sep :: after).span (· != sep)
      = (before, sep :: after) := by
    rw [List.span_eq_takeWhile_dropWhile,
      List.takeWhile_append_of_pos hbefore,
      List.dropWhile_append_of_pos hbefore,
      List.takeWhile_cons_of_neg (by simp),
      List.dropWhile_cons_of_neg (by simp), List.append_nil]
  rw [Text.cutAt, hspan]

namespace Command

-- =============================================================== roles

section Roles

variable {options : List Opt} {word : Text}

theorem otherRole_ne_option (o : Opt) (value : Option Text) (w : Text) :
    otherRole w ≠ .option o value := by
  intro heq
  unfold otherRole at heq
  split at heq <;> cases heq

/-- The only option with a short form is the request for help. -/
theorem eq_help_of_shortRole {o : Opt} {value : Option Text}
    (h : shortRole word = .option o value) : o = .help := by
  have hrun : ∀ w, shortRole.runRole w ≠ .option o value := by
    intro w heq
    unfold shortRole.runRole at heq
    split at heq
    · cases heq
    · exact otherRole_ne_option o value w heq
  unfold shortRole at h
  split at h
  · split at h
    · cases h
      rfl
    · exact absurd h (hrun _)
  · split at h
    · cases h
    · exact absurd h (hrun _)
  · exact absurd h (hrun _)

/-- A long form is that of an option of the grammar, in full or
abbreviated. -/
theorem mem_of_longRole {o : Opt} {value : Option Text}
    (h : longRole options word = .ok (.option o value)) : o ∈ options := by
  unfold longRole at h
  simp only at h
  split at h
  · next found hfound =>
    cases h
    exact List.mem_of_find?_eq_some hfound
  · split at h
    · next found hfound =>
      cases h
      exact List.mem_of_find?_eq_some hfound
    · split at h
      · exact absurd (Except.ok.inj h) (otherRole_ne_option _ _ _)
      · next found hfound =>
        cases h
        have hmem : o ∈ options.filter _ := hfound ▸ List.mem_singleton_self o
        exact (List.mem_filter.1 hmem).1
      · cases h

/-- A word is taken for an option of the grammar, or for the request for
help. -/
theorem mem_of_roleOf {o : Opt} {value : Option Text}
    (hhelp : .help ∈ options)
    (h : roleOf options word = .ok (.option o value)) : o ∈ options := by
  unfold roleOf at h
  split at h
  · exact mem_of_longRole h
  · rw [eq_help_of_shortRole (Except.ok.inj h)]
    exact hhelp
  · cases h

/-- A single option is never ambiguous. -/
theorem exists_roleOf (o : Opt) (word : Text) :
    ∃ role, roleOf [o] word = .ok role := by
  unfold roleOf
  split
  · unfold longRole
    simp only
    split
    · exact ⟨_, rfl⟩
    · split
      · exact ⟨_, rfl⟩
      · split
        · exact ⟨_, rfl⟩
        · exact ⟨_, rfl⟩
        · next hnone hone =>
          exfalso
          rw [List.filter_cons, List.filter_nil] at hnone hone
          split at hone
          · next hfits =>
            exact hone o rfl
          · next hfits =>
            rw [if_neg hfits] at hnone
            exact hnone rfl
  · exact ⟨_, rfl⟩
  · exact ⟨_, rfl⟩

end Roles

-- ======================================================= whole lines

section Lines

variable {options : List Opt} {words : List Text} {classified : List Word}

/-- What words are taken for does not change them. -/
theorem texts_of_classify (h : classify options words = .ok classified) :
    classified.map Word.text = words := by
  induction words generalizing classified with
  | nil =>
      cases h
      rfl
  | cons word rest ih =>
      rw [classify] at h
      split at h
      · cases h
        simp only [List.map_cons, List.map_map, Function.comp_def,
          List.map_id']
      · obtain ⟨role, -, h⟩ := bind_eq_ok_iff.1 h
        obtain ⟨others, hothers, h⟩ := bind_eq_ok_iff.1 h
        cases h
        rw [List.map_cons, ih hothers]

/-- A classified word is an option of the grammar, if it is one. -/
theorem mem_of_classify (hhelp : .help ∈ options)
    (h : classify options words = .ok classified) {w : Word}
    (hw : w ∈ classified) {o : Opt} {value : Option Text}
    (hrole : w.role = .option o value) : o ∈ options := by
  induction words generalizing classified with
  | nil =>
      cases h
      cases hw
  | cons word rest ih =>
      rw [classify] at h
      split at h
      · cases h
        rcases List.mem_cons.1 hw with rfl | hw
        · cases hrole
        · obtain ⟨_, -, rfl⟩ := List.mem_map.1 hw
          cases hrole
      · obtain ⟨role, hword, h⟩ := bind_eq_ok_iff.1 h
        obtain ⟨others, hothers, h⟩ := bind_eq_ok_iff.1 h
        cases h
        rcases List.mem_cons.1 hw with rfl | hw
        · rw [show role = .option o value from hrole] at hword
          exact mem_of_roleOf hhelp hword
        · exact ih hothers hw

/-- With a single option every line can be classified. -/
theorem exists_classify (o : Opt) (words : List Text) :
    ∃ classified, classify [o] words = .ok classified := by
  induction words with
  | nil => exact ⟨[], rfl⟩
  | cons word rest ih =>
      rw [classify]
      split
      · exact ⟨_, rfl⟩
      · obtain ⟨role, hrole⟩ := exists_roleOf o word
        obtain ⟨others, hothers⟩ := ih
        exact ⟨⟨word, role⟩ :: others, by rw [hrole, hothers]; rfl⟩

theorem reading_of_finish {p : Progress} {r : Reading}
    (h : p.finish = .ok r) : p.reading = r := by
  unfold Progress.finish at h
  split at h
  · cases h
  · cases h
    rfl
  · cases h
  · cases h

end Lines

-- ==================================================== words are kept

namespace Progress

/-- A point of reading `words` at which each of them has been kept: they
are all placed, unless something has been set aside. -/
structure Keeps (words : List Text) (p : Progress) : Prop where
  no_single : ∀ name, p.place ≠ .single name
  turn : p.turn = .free ∨ p.turn = .gathered
  placed : p.reading.aside = [] → p.reading.placed.getD [] = words

/-- A point of reading at which nothing is placed, and nothing can be. -/
structure Idle (p : Progress) : Prop where
  no_place : p.place = .absent
  turn : p.turn = .free
  no_placed : p.reading.placed = none

variable {p p' : Progress} {w : Word}

private theorem setAside_ne_nil (p : Progress) (word : Text) :
    (p.setAside word).reading.aside ≠ [] :=
  List.append_ne_nil_of_right_ne_nil _ (List.cons_ne_nil _ _)

theorem Keeps.setAside {words : List Text} (h : p.Keeps words)
    (word : Text) (more : List Text) : (p.setAside word).Keeps more where
  no_single := h.no_single
  turn := .inl rfl
  placed := fun haside => absurd haside (setAside_ne_nil p word)

theorem Keeps.put {words : List Text} (h : p.Keeps words) (word : Text)
    {place : Place} {turn : Turn} (hplace : ∀ name, place ≠ .single name)
    (hturn : turn = .free ∨ turn = .gathered) :
    (p.put word place turn).Keeps (words ++ [word]) where
  no_single := hplace
  turn := hturn
  placed := fun haside => by
    show p.reading.placed.getD [] ++ [word] = _
    rw [h.placed haside]

/-- One step keeps its word, unless it ends the reading. -/
theorem Keeps.step {words : List Text} (h : p.Keeps words)
    (hrole : ∀ o value, w.role = .option o value → o = .help)
    (hstep : p.step w = .ok p') : p'.Keeps (words ++ [w.text]) := by
  obtain ⟨text, role⟩ := w
  rcases h.turn with hturn | hturn
  · -- the word is taken for what it is
    have htake : p.take ⟨text, role⟩ = .ok p' := by
      rw [← hstep, Progress.step, hturn]
    cases role with
    | unknown =>
        cases htake
        exact h.setAside text _
    | helpRun more => cases htake
    | option o value =>
        cases hrole o value rfl
        cases value <;> cases htake
    | plain =>
        cases hplace : p.place with
        | absent =>
            rw [Progress.take, hplace] at htake
            cases htake
            exact h.setAside text _
        | single name => exact absurd hplace (h.no_single name)
        | remaining name =>
            rw [Progress.take, hplace] at htake
            cases htake
            exact h.put text (fun _ heq => nomatch heq) (.inr rfl)
    | separator =>
        cases hplace : p.place with
        | absent =>
            rw [Progress.take, hplace] at htake
            cases htake
            exact h.setAside text _
        | single name => exact absurd hplace (h.no_single name)
        | remaining name =>
            rw [Progress.take, hplace] at htake
            cases htake
            exact h.put text (fun _ heq => nomatch heq) (.inl rfl)
  · -- whatever the word is, it goes with the one before
    have hput : p.put text p.place .gathered = p' := by
      rw [Progress.step, hturn] at hstep
      exact Except.ok.inj hstep
    rw [← hput]
    exact h.put text h.no_single (.inr rfl)

/-- Where nothing can be placed a step sets its word aside. -/
theorem Idle.step (h : p.Idle)
    (hrole : ∀ o value, w.role = .option o value → o = .help)
    (hstep : p.step w = .ok p') : p'.Idle := by
  obtain ⟨text, role⟩ := w
  have htake : p.take ⟨text, role⟩ = .ok p' := by
    rw [← hstep, Progress.step, h.turn]
  have haside : p.setAside text = p' → p'.Idle := by
    rintro rfl
    exact ⟨h.no_place, rfl, h.no_placed⟩
  cases role with
  | unknown => exact haside (Except.ok.inj htake)
  | helpRun more => cases htake
  | option o value =>
      cases hrole o value rfl
      cases value <;> cases htake
  | plain =>
      rw [Progress.take, h.no_place] at htake
      exact haside (Except.ok.inj htake)
  | separator =>
      rw [Progress.take, h.no_place] at htake
      exact haside (Except.ok.inj htake)

end Progress

section Kept

variable {g : Grammar} {words : List Text} {r : Reading}

/-- What a reading by a grammar that only knows help preserves from word
to word holds at its end. -/
private theorem reading_induction (hoptions : g.options = [.help])
    {P : List Text → Progress → Prop}
    (hstep : ∀ {seen : List Text} {p p' : Progress} {w : Word}, P seen p →
      (∀ o value, w.role = .option o value → o = .help) →
      p.step w = .ok p' → P (seen ++ [w.text]) p')
    (hstart : P [] ⟨{}, g.place, .free⟩) (h : g.read words = .ok r) :
    ∃ p, P words p ∧ p.reading = r := by
  obtain ⟨classified, hclassified, h⟩ := bind_eq_ok_iff.1 h
  obtain ⟨last, hlast, hfinish⟩ := bind_eq_ok_iff.1 h
  rw [mapError_eq_ok_iff, hoptions] at hclassified
  refine ⟨last, ?_, reading_of_finish hfinish⟩
  rw [← texts_of_classify hclassified]
  refine foldlM_induction (P := fun seen p => P (seen.map Word.text) p)
    ?_ hstart hlast
  intro seen w p p' hw hseen hnext
  rw [List.map_append]
  refine hstep hseen (fun o value hrole => ?_) hnext
  exact List.mem_singleton.1
    (mem_of_classify (List.mem_singleton_self _) hclassified hw hrole)

/-- Where words are not dropped and nothing is set aside, the whole line
is placed. -/
theorem placed_of_read (hoptions : g.options = [.help])
    (hplace : ∀ name, g.place ≠ .single name) (h : g.read words = .ok r)
    (haside : r.aside = []) : r.placed.getD [] = words := by
  obtain ⟨p, hp, rfl⟩ := reading_induction hoptions
    (P := Progress.Keeps) Progress.Keeps.step
    ⟨hplace, .inl rfl, fun _ => rfl⟩ h
  exact hp.placed haside

/-- Where there is no place nothing is placed. -/
theorem placed_of_absent (hoptions : g.options = [.help])
    (hplace : g.place = .absent) (h : g.read words = .ok r) :
    r.placed = none := by
  obtain ⟨p, hp, rfl⟩ := reading_induction hoptions
    (P := fun _ p => p.Idle) Progress.Idle.step
    ⟨hplace, rfl, rfl⟩ h
  exact hp.no_placed

end Kept

-- ============================================= the word of a command

/-- Words that go with the first one are placed behind it. -/
theorem foldlM_gathered {p : Progress} {front : List Text}
    (hturn : p.turn = .gathered) (hplaced : p.reading.placed = some front)
    (classified : List Word) :
    classified.foldlM Progress.step p
      = .ok { p with
          reading.placed := some (front ++ classified.map Word.text) } := by
  induction classified generalizing p front with
  | nil =>
      rw [List.map_nil, List.append_nil, ← hplaced]
      rfl
  | cons w rest ih =>
      have hstep : p.step w = .ok (p.put w.text p.place .gathered) := by
        rw [Progress.step, hturn]
      have hfront : (p.put w.text p.place .gathered).reading.placed
          = some (front ++ [w.text]) := by
        show some (p.reading.placed.getD [] ++ [w.text]) = _
        rw [hplaced]
        rfl
      rw [List.foldlM_cons, hstep]
      show rest.foldlM Progress.step (p.put w.text p.place .gathered) = _
      rw [ih rfl hfront, List.map_cons, List.append_assoc, ← hturn]
      rfl

/-- A line that starts with the word of a command is placed as a whole. -/
theorem read_mainGrammar (c : Command) (rest : List Text) :
    mainGrammar.read (c.word :: rest)
      = .ok { placed := some (c.word :: rest) } := by
  obtain ⟨classified, hclassified⟩ := exists_classify .help rest
  have hword : classify [.help] (c.word :: rest)
      = .ok (⟨c.word, .plain⟩ :: classified) := by
    have hrole : roleOf [.help] c.word = .ok .plain := by cases c <;> rfl
    have hends : c.word ≠ endOfOptions := by cases c <;> decide
    rw [classify, if_neg hends, hrole, hclassified]
    rfl
  have hgathered := foldlM_gathered
    (p := ⟨{ placed := some [c.word] }, .absent, .gathered⟩) rfl rfl
    classified
  rw [texts_of_classify hclassified] at hgathered
  unfold Grammar.read
  rw [show mainGrammar.options = [.help] from rfl, hword]
  show (classified.foldlM Progress.step
    ⟨{ placed := some [c.word] }, .absent, .gathered⟩ >>= _) = _
  rw [hgathered]
  rfl

theorem ofWord?_word (c : Command) : ofWord? c.word = some c := by
  cases c <;> decide

theorem word_of_ofWord? {name : Text} {c : Command}
    (h : ofWord? name = some c) : c.word = name := by
  simpa using List.find?_some h

/-- After the word of a command its own grammar reads the rest. -/
theorem read_command (c : Command) (rest : List Text) :
    read (c.word :: rest) = readCommand c [] rest := by
  unfold read
  rw [read_mainGrammar]
  simp only [Except.mapError, bind, Except.bind, Option.getD_some,
    List.headD_cons, List.tail_cons, ofWord?_word]

/-- A line asks for the server exactly when it is the one word for it. -/
theorem read_eq_serve_iff {words : List Text} :
    read words = .ok .serve ↔ words = [serve.word] := by
  constructor
  · intro h
    obtain ⟨r, hr, h⟩ := bind_eq_ok_iff.1 h
    rw [mapError_eq_ok_iff] at hr
    simp only at h
    split at h
    case h_2 => cases h
    case h_1 c hc =>
      obtain ⟨own, hown, h⟩ := bind_eq_ok_iff.1 h
      rw [mapError_eq_ok_iff] at hown
      split at h
      case h_2 => cases h
      case h_1 haside =>
        obtain ⟨haside, hownAside⟩ := List.append_eq_nil_iff.1 haside
        have hplaced := placed_of_read rfl (fun _ heq => by cases heq) hr haside
        have hserve : c = serve := by
          cases c with
          | serve => rfl
          | check => cases h
          | render => cases h
        subst hserve
        -- nothing can be placed behind the word, and nothing is aside
        have hrest := placed_of_read rfl (fun _ heq => by cases heq) hown
          hownAside
        rw [placed_of_absent rfl rfl hown] at hrest
        have hhead := word_of_ofWord? hc
        rw [hplaced] at hhead hrest
        cases words with
        | nil => cases hhead
        | cons word rest =>
            rw [show rest = [] from hrest.symm]
            rw [show serve.word = word from hhead]
  · rintro rfl
    rw [read_command]
    rfl

end Command

end Logline
