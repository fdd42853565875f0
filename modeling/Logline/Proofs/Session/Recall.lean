/-
What a session keeps is as good as new. It keeps templates and renderers
for as long as it lives, through changes of the environment and through
operations that fail, and still it answers as if it kept nothing and made
everything afresh from what it has been asked (`run_eq_afresh`).

The proof is a simulation. A session recalls its past when a look at what
it keeps gives what is made afresh (`Recalls`). It then answers as
`afresh` does, and whatever it is asked, it goes on to recall that too
(`Recalls.step`). Templates that it keeps have their layouts in them, so
they are equal when their layouts are; and no id is kept twice, so the ids
of equal templates are those of equal layouts (`Recalls.equalIds_eq`).
-/
import Logline.Proofs.Layout.Roundtrip
import Logline.Proofs.Rendering
import Logline.Proofs.Session.Past

namespace Logline

open Calendar Layout

namespace Session

-- ======================================================= what is kept

section Kept

variable {α : Type} {id other : Text} {entry : α}
  {entries : List (Text × α)}

theorem lookUp_put_self : lookUp id (put id entry entries) = .ok entry := by
  rw [lookUp, put, List.lookup_cons_self]

theorem lookUp_put_of_ne (h : other ≠ id) :
    lookUp other (put id entry entries) = lookUp other entries := by
  have hfilter : (entries.filter (·.1 ≠ id)).lookup other
      = entries.lookup other := by
    induction entries with
    | nil => rfl
    | cons e rest ih =>
        by_cases he : e.1 = id
        · rw [List.filter_cons_of_neg (by simpa using he), ih,
            List.lookup_cons, he, beq_false_of_ne h]
        · rw [List.filter_cons_of_pos (by simpa using he), List.lookup_cons,
            List.lookup_cons, ih]
  rw [lookUp, put, List.lookup_cons, beq_false_of_ne h, hfilter, lookUp]

/-- An entry is found where no two have the same id. -/
theorem lookUp_of_mem (hnodup : (entries.map (·.1)).Nodup)
    {e : Text × α} (h : e ∈ entries) : lookUp e.1 entries = .ok e.2 := by
  have hlookup : entries.lookup e.1 = some e.2 := by
    induction entries with
    | nil => cases h
    | cons first rest ih =>
        obtain ⟨hfirst, hrest⟩ := List.nodup_cons.1 hnodup
        rw [List.lookup_cons]
        rcases List.mem_cons.1 h with rfl | hmem
        · rw [beq_self_eq_true]
        · have hne : e.1 ≠ first.1 := fun heq =>
              hfirst (List.mem_map.2 ⟨e, hmem, heq⟩)
          rw [beq_false_of_ne hne]
          exact ih hrest hmem
  rw [lookUp, hlookup]

theorem map_fst_put : (put id entry entries).map (·.1)
    = id :: (entries.map (·.1)).filter (· ≠ id) := by
  rw [put, List.map_cons, List.filter_map]
  rfl

end Kept

-- ======================================================== the simulation

/-- Does a session recall a past: does a look at what it keeps give what
is made afresh? -/
structure Recalls (env : Environment) (past : List Operation) (s : Session) :
    Prop where
  environment : s.environment = environmentAfter env past
  template : ∀ id, lookUp id s.templates = templateAfresh past id
  renderer : ∀ id, lookUp id s.renderers = rendererAfresh env past id
  ids : s.templates.map (·.1) = compiledIds past

variable {env : Environment} {past : List Operation} {s : Session}
  {op : Operation}

theorem recalls_start (env : Environment) : Recalls env [] (start env) :=
  ⟨rfl, fun _ => rfl, fun _ => rfl, rfl⟩

/-- A session that keeps the same through an idle operation recalls it. -/
theorem Recalls.of_idle (h : Recalls env past s) (hidle : Idle env past op)
    {environment : Environment}
    (henv : environment = environmentAfter env (op :: past)) :
    Recalls env (op :: past) { s with environment := environment } where
  environment := henv
  template id := by rw [hidle.templateAfresh_eq, ← h.template]
  renderer id := by rw [hidle.rendererAfresh_eq, ← h.renderer]
  ids := by rw [hidle.compiledIds_eq, ← h.ids]

/-- Whether a variable can be set does not depend on the others. -/
theorem map_setNamed (e : Environment) (name : Text) (value : Option Text) :
    ((e.setNamed name value).mapError Error.badVariable).map
        (fun _ => Answer.done)
      = afresh env past (.setVariable name value) := by
  unfold Environment.setNamed
  cases value with
  | none => cases Variable.ofName? name <;> rfl
  | some t =>
      show ((Environment.check name t >>= _).mapError _).map _
        = ((Environment.check name t).mapError _ >>= _)
      cases Environment.check name t with
      | error why => rfl
      | ok _ => cases Variable.ofName? name <;> rfl

namespace Recalls

variable (h : Recalls env past s)
include h

/-- A template that is kept was compiled from the last layout. -/
theorem of_lookUp {id : Text} {template : Template}
    (hkept : lookUp id s.templates = .ok template) :
    ∃ layout, lastLayout? id past = some layout
      ∧ compile layout = .ok template := by
  rw [h.template, templateAfresh] at hkept
  split at hkept
  · next layout hlast => exact ⟨layout, hlast, mapError_eq_ok_iff.1 hkept⟩
  · cases hkept

/-- Templates are equal when their last layouts are. -/
theorem eq_iff_lastLayout?_eq {id id' : Text} {template template' : Template}
    (hkept : lookUp id s.templates = .ok template)
    (hkept' : lookUp id' s.templates = .ok template') :
    template = template' ↔ lastLayout? id past = lastLayout? id' past := by
  obtain ⟨layout, hlast, hcompile⟩ := h.of_lookUp hkept
  obtain ⟨layout', hlast', hcompile'⟩ := h.of_lookUp hkept'
  rw [hlast, hlast', Option.some.injEq]
  exact template_eq_iff_layout_eq hcompile hcompile'

/-- The templates that equal a compiled one are those of its layout. -/
theorem equalIds_eq {id layout : Text} {template : Template}
    (hcompile : compile layout = .ok template) :
    equalIds id template (put id template s.templates)
      = sameLayout past id layout := by
  have hnodup : (s.templates.map (·.1)).Nodup := by
    rw [h.ids]
    exact nodup_compiledIds past
  have hsame : ∀ e ∈ s.templates,
      e.2 = template ↔ lastLayout? e.1 past = some layout := by
    intro e he
    obtain ⟨kept, hlast, hkept⟩ := h.of_lookUp (lookUp_of_mem hnodup he)
    rw [hlast, Option.some.injEq]
    exact template_eq_iff_layout_eq hkept hcompile
  -- the entry that is put in is not one of the others
  have hothers : (put id template s.templates).filter
        (fun e => e.1 ≠ id && e.2 = template)
      = s.templates.filter
        ((fun other => other ≠ id && lastLayout? other past = some layout)
          ∘ (·.1)) := by
    rw [put, List.filter_cons_of_neg (by simp), List.filter_filter]
    refine List.filter_congr fun e he => ?_
    simp only [Function.comp_apply, hsame e he]
    cases decide (e.1 ≠ id) <;> simp
  rw [equalIds, sameLayout, hothers, ← h.ids, List.filter_map]

-- ======================================================= one operation

/-- A change of the environment is answered and recalled. -/
theorem of_setVariable (name : Text) (value : Option Text) :
    s.answer (.setVariable name value)
        = afresh env past (.setVariable name value)
      ∧ Recalls env (.setVariable name value :: past)
        (s.next (.setVariable name value)) := by
  have hidle : Idle env past (.setVariable name value) :=
    ⟨fun _ => rfl, fun _ => rfl, fun _ => rfl⟩
  cases hset : s.environment.setNamed name value with
  | error why =>
      have hperform : s.perform (.setVariable name value)
          = .error (.badVariable why) := by
        rw [perform, hset]
        rfl
      rw [answer_of_error hperform, next_of_error hperform]
      constructor
      · rw [← map_setNamed s.environment, hset]
        rfl
      · refine h.of_idle hidle ?_
        rw [environmentAfter, ← h.environment, hset]
  | ok environment =>
      have hperform : s.perform (.setVariable name value)
          = .ok (.done, { s with environment := environment }) := by
        rw [perform, hset]
        rfl
      rw [answer_of_ok hperform, next_of_ok hperform]
      constructor
      · rw [← map_setNamed s.environment, hset]
        rfl
      · refine h.of_idle hidle ?_
        rw [environmentAfter, ← h.environment, hset]

/-- A layout is compiled and recalled. -/
theorem of_compile (id layout : Text) :
    s.answer (.compile id layout) = afresh env past (.compile id layout)
      ∧ Recalls env (.compile id layout :: past)
        (s.next (.compile id layout)) := by
  cases hcompile : compile layout with
  | error why =>
      have hperform : s.perform (.compile id layout)
          = .error (.badLayout why) := by
        rw [perform, hcompile]
        rfl
      have hidle : Idle env past (.compile id layout) := by
        refine ⟨fun other => ?_, fun _ => rfl, fun ids => ?_⟩
        · rw [compiledLayout?, hcompile]
          exact ite_self _
        · rw [addId, hcompile]
          rfl
      rw [answer_of_error hperform, next_of_error hperform]
      constructor
      · rw [afresh, hcompile]
        rfl
      · exact h.of_idle hidle h.environment
  | ok template =>
      have hperform : s.perform (.compile id layout)
          = .ok (.compiled template.pieces.length
              (equalIds id template (put id template s.templates)),
            { s with templates := put id template s.templates }) := by
        rw [perform, hcompile]
        rfl
      rw [answer_of_ok hperform, next_of_ok hperform]
      constructor
      · rw [afresh, hcompile, h.equalIds_eq hcompile]
        rfl
      · constructor
        · exact h.environment
        · intro other
          show lookUp other (put id template s.templates) = _
          rw [templateAfresh, lastLayout?, last?, compiledLayout?, hcompile]
          -- the id now stands for the layout, and others for what they did
          by_cases hid : id = other
          · rw [if_pos hid, ← hid, lookUp_put_self]
            show _ = (compile layout).mapError _
            rw [hcompile]
            rfl
          · rw [if_neg hid, lookUp_put_of_ne (Ne.symm hid)]
            exact h.template other
        · intro other
          exact h.renderer other
        · show (put id template s.templates).map (·.1) = _
          rw [map_fst_put, h.ids, compiledIds, compiledIds, List.foldr_cons,
            addId, hcompile]
          rfl

/-- A renderer is built as it would be afresh. -/
theorem perform_build (id : Text) (config : Config) (resolve : Bool) :
    s.perform (.build id config resolve)
      = (buildAfresh env past config resolve).map fun renderer =>
        (.built renderer.config,
          { s with renderers := put id renderer s.renderers }) := by
  have hbuild : buildAfresh env past config resolve
      = s.configFor config resolve >>= fun config =>
        (Renderer.ofConfig config).mapError .badLine := by
    rw [configFor, h.environment, buildAfresh]
    cases resolve <;> rfl
  rw [perform, hbuild]
  cases s.configFor config resolve with
  | error why => rfl
  | ok resolved =>
      show ((Renderer.ofConfig resolved).mapError _ >>= _)
        = ((Renderer.ofConfig resolved).mapError _).map _
      cases hrenderer : Renderer.ofConfig resolved with
      | error why => rfl
      | ok renderer =>
          rw [← Renderer.config_of_ofConfig hrenderer]
          rfl

/-- A renderer is built and recalled. -/
theorem of_build (id : Text) (config : Config) (resolve : Bool) :
    s.answer (.build id config resolve)
        = afresh env past (.build id config resolve)
      ∧ Recalls env (.build id config resolve :: past)
        (s.next (.build id config resolve)) := by
  have hperform := h.perform_build id config resolve
  cases hbuild : buildAfresh env past config resolve with
  | error why =>
      rw [hbuild] at hperform
      have hidle : Idle env past (.build id config resolve) := by
        refine ⟨fun _ => rfl, fun other => ?_, fun _ => rfl⟩
        rw [builtConfig?, hbuild]
        exact ite_self _
      rw [answer_of_error hperform, next_of_error hperform]
      constructor
      · rw [afresh, hbuild]
        rfl
      · exact h.of_idle hidle h.environment
  | ok renderer =>
      rw [hbuild] at hperform
      rw [answer_of_ok hperform, next_of_ok hperform]
      constructor
      · rw [afresh, hbuild]
        rfl
      · constructor
        · exact h.environment
        · intro other
          exact h.template other
        · intro other
          show lookUp other (put id renderer s.renderers) = _
          rw [rendererAfresh, lastConfig?, last?, builtConfig?, hbuild]
          by_cases hid : id = other
          · rw [if_pos hid, ← hid, lookUp_put_self]
            show _ = (Renderer.ofConfig renderer.config).mapError _
            rw [Renderer.ofConfig_of_ofName? renderer.style_known]
            rfl
          · rw [if_neg hid, lookUp_put_of_ne (Ne.symm hid)]
            exact h.renderer other
        · exact h.ids

/-- What only looks is answered afresh. -/
theorem answer_of_looks (hlooks : op.Looks) :
    s.answer op = afresh env past op := by
  have hmap : ∀ {x : Except Error (Answer × Session)},
      x.map (·.1) = (·.1) <$> x := rfl
  cases op with
  | setVariable name value => cases hlooks
  | compile id layout => cases hlooks
  | build id config resolve => cases hlooks
  | render rendererId templateId event =>
      simp only [answer, perform, afresh, h.renderer, h.template, hmap,
        map_bind, map_pure]
  | levelName rendererId level =>
      simp only [answer, perform, afresh, h.renderer, hmap, map_bind,
        map_pure]
  | template id =>
      simp only [answer, perform, afresh, h.template, hmap, map_bind,
        map_pure]

/-- One operation: a session that recalls its past answers as if all were
made afresh, and recalls the operation. -/
theorem step (op : Operation) :
    s.answer op = afresh env past op
      ∧ Recalls env (op :: past) (s.next op) := by
  have hlooking : op.Looks →
      environmentAfter env (op :: past) = environmentAfter env past →
      s.answer op = afresh env past op
        ∧ Recalls env (op :: past) (s.next op) := by
    intro hlooks henv
    refine ⟨h.answer_of_looks hlooks, ?_⟩
    rw [next_of_looks hlooks]
    exact h.of_idle (idle_of_looks hlooks) (h.environment.trans henv.symm)
  cases op with
  | setVariable name value => exact h.of_setVariable name value
  | compile id layout => exact h.of_compile id layout
  | build id config resolve => exact h.of_build id config resolve
  | render rendererId templateId event => exact hlooking trivial rfl
  | levelName rendererId level => exact hlooking trivial rfl
  | template id => exact hlooking trivial rfl

end Recalls

/-- A session recalls all that it has been asked. -/
theorem recalls_after (env : Environment) (ops : List Operation) :
    Recalls env ops.reverse ((start env).after ops) := by
  induction ops using List.reverseRecOn with
  | nil => exact recalls_start env
  | append_singleton ops op ih =>
      have hnext := (ih.step op).2
      rw [List.reverse_append, after, List.foldl_append]
      exact hnext

-- =========================================================== the session

/-- A session answers as if it kept nothing but the list of what it has
been asked. Every operation is answered as it would be by compiling once
more the layout last compiled under the template's id, and by building
once more the configuration last built under the renderer's id, as it was
resolved then. What looks or fails changes no other answer. A change of
the environment changes none but those of later operations that resolve a
renderer in it, or use one that has been resolved since. And templates
kept under two ids are equal exactly when the layouts last compiled under
the ids are the same. -/
theorem run_eq_afresh (env : Environment) (before : List Operation) :
    (∀ op rest, ((start env).run (before ++ op :: rest))[before.length]?
        = some (afresh env before.reverse op))
      ∧ (∀ op rest, (op.Looks ∨ ∃ why,
          ((start env).run (before ++ op :: rest))[before.length]?
            = some (.error why)) →
        ((start env).run (before ++ op :: rest)).eraseIdx before.length
          = (start env).run (before ++ rest))
      ∧ (∀ name value between op rest, op.Ignores between →
        ((start env).run (before ++ .setVariable name value
            :: (between ++ op :: rest)))[before.length + between.length + 1]?
          = ((start env).run (before ++ (between ++ op :: rest)))[
            before.length + between.length]?)
      ∧ ∀ id id' template template',
        ((start env).after before).templates.lookup id = some template →
        ((start env).after before).templates.lookup id' = some template' →
        (template = template'
          ↔ lastLayout? id before.reverse
            = lastLayout? id' before.reverse) := by
  have hanswer : ∀ before op rest,
      ((start env).run (before ++ op :: rest))[before.length]?
        = some (afresh env before.reverse op) := by
    intro before op rest
    rw [getElem?_run, ((recalls_after env before).step op).1]
  refine ⟨hanswer before, ?_, ?_, ?_⟩
  · intro op rest h
    refine eraseIdx_run ?_ rest
    rcases h with hlooks | ⟨why, hwhy⟩
    · exact next_of_looks hlooks
    · rw [getElem?_run] at hwhy
      exact next_of_answer_eq_error (Option.some.inj hwhy)
  · intro name value between op rest h
    have hwith := hanswer (before ++ .setVariable name value :: between) op
      rest
    have hwithout := hanswer (before ++ between) op rest
    have hignores : op.Ignores between.reverse :=
      ⟨h.resolves_none, fun o ho => h.uses_none o (List.mem_reverse.1 ho)⟩
    rw [List.append_assoc, List.cons_append, List.length_append,
      List.length_cons, ← Nat.add_assoc, List.reverse_append,
      List.reverse_cons, List.append_assoc, List.singleton_append,
      afresh_of_setVariable hignores] at hwith
    rw [List.append_assoc, List.length_append, List.reverse_append]
      at hwithout
    rw [hwith, hwithout]
  · intro id id' template template' h h'
    refine (recalls_after env before).eq_iff_lastLayout?_eq ?_ ?_
    · rw [lookUp, h]
    · rw [lookUp, h']

/-- A renderer that was resolved keeps the name for unknown levels when the
variable is cleared, and a template its layout when another does not
compile. -/
theorem run_eq_afresh_cleared :
    let before : List Operation :=
      [.setVariable "LOG_LAYOUT_UNKNOWN_LEVEL_NAME" (some "?"),
        .build "r" {} true, .compile "t" "%p", .compile "u" "%p"]
    let render : Operation := .render "r" "t"
      (.ok ⟨.text "root", .first, .number 7, .text []⟩)
    ((start .empty).run (before ++ .setVariable
          "LOG_LAYOUT_UNKNOWN_LEVEL_NAME" none :: [render]))[5]?
        = some (.ok (.text "?"))
      ∧ ((start .empty).run (before ++ .compile "t" "%" :: [render])).eraseIdx 4
        = (start .empty).run (before ++ [render])
      ∧ lastLayout? "t" before.reverse = lastLayout? "u" before.reverse := by
  intro before render
  obtain ⟨hanswer, hquiet, henv, hequal⟩ := run_eq_afresh .empty before
  have hignores : render.Ignores [] :=
    ⟨fun _ ⟨_, heq⟩ => (nomatch heq), fun _ ho => (nomatch ho)⟩
  refine ⟨?_, ?_, ?_⟩
  · have hcleared :=
      henv "LOG_LAYOUT_UNKNOWN_LEVEL_NAME" none [] render [] hignores
    exact hcleared.trans ((hanswer render []).trans (by rfl))
  · exact hquiet (.compile "t" "%") [render]
      (.inr ⟨_, (hanswer _ [render]).trans (by rfl)⟩)
  · exact (hequal "t" "u" ⟨[⟨.level, []⟩], "%p"⟩ ⟨[⟨.level, []⟩], "%p"⟩
      (by rfl) (by rfl)).1 rfl

end Session

end Logline
