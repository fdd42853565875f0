/-
What a session answers, made afresh. All that an operation needs could be
had from nothing but the list of what was asked before: a template by
compiling the layout that was last compiled under its id, and a renderer
by building the configuration that was last built under its id, as the
environment of that moment resolved it. `afresh` answers in this way. It
keeps nothing, and compiles and builds again whenever it is asked.

What was asked before an operation is its past, the latest first, so that
the last of a kind is the first to be found (`last?`). An operation that
fails or only looks leaves nothing to be found. A change of the
environment leaves neither layout nor configuration, but it changes the
environment that is found; and that is asked for only where a renderer is
resolved (`afresh_of_setVariable`).
-/
import Logline.Proofs.Session.Run

namespace Logline

open Calendar Layout

namespace Session

-- ============================================================= the past

/-- The first that is found in a past. What an operation leaves to be
found may depend on its own past. -/
def last? {α : Type} (found : List Operation → Operation → Option α) :
    List Operation → Option α
  | [] => none
  | op :: past => (found past op).or (last? found past)

/-- The environment after a past. -/
def environmentAfter (env : Environment) : List Operation → Environment
  | [] => env
  | .setVariable name value :: past =>
    match (environmentAfter env past).setNamed name value with
    | .ok changed => changed
    | .error _ => environmentAfter env past
  | _ :: past => environmentAfter env past

/-- The layout that an operation compiles under an id. -/
def compiledLayout? (id : Text) : Operation → Option Text
  | .compile other layout =>
    if other = id then (compile layout).toOption.map fun _ => layout
    else none
  | _ => none

/-- The layout last compiled under an id. -/
def lastLayout? (id : Text) (past : List Operation) : Option Text :=
  last? (fun _ => compiledLayout? id) past

/-- The ids of templates, with one more if something is compiled. -/
def addId (op : Operation) (ids : List Text) : List Text :=
  match op with
  | .compile id layout =>
    if (compile layout).isOk then id :: ids.filter (· ≠ id) else ids
  | _ => ids

/-- The ids that something is compiled under. -/
def compiledIds (past : List Operation) : List Text :=
  past.foldr addId []

/-- Builds a renderer, resolved in the environment after a past if that is
asked for. -/
def buildAfresh (env : Environment) (past : List Operation) (config : Config)
    (resolve : Bool) : Except Error Renderer := do
  let config ←
    if resolve then
      (config.resolve (environmentAfter env past)).mapError .environment
    else .ok config
  (Renderer.ofConfig config).mapError .badLine

/-- The configuration of the renderer that an operation builds under an
id. -/
def builtConfig? (env : Environment) (id : Text) (past : List Operation) :
    Operation → Option Config
  | .build other config resolve =>
    if other = id then
      (buildAfresh env past config resolve).toOption.map (·.config)
    else none
  | _ => none

/-- The configuration last built under an id. -/
def lastConfig? (env : Environment) (id : Text) (past : List Operation) :
    Option Config :=
  last? (builtConfig? env id) past

-- =============================================================== afresh

/-- The template of an id, compiled again. -/
def templateAfresh (past : List Operation) (id : Text) :
    Except Error Template :=
  match lastLayout? id past with
  | some layout => (compile layout).mapError .badLayout
  | none => .error (.unknownId id)

/-- The renderer of an id, built again. -/
def rendererAfresh (env : Environment) (past : List Operation) (id : Text) :
    Except Error Renderer :=
  match lastConfig? env id past with
  | some config => (Renderer.ofConfig config).mapError .badLine
  | none => .error (.unknownId id)

/-- The other ids whose layout is now the same, in order. -/
def sameLayout (past : List Operation) (id layout : Text) : List Text :=
  ((compiledIds past).filter fun other =>
    other ≠ id && lastLayout? other past = some layout).mergeSort Text.notAfter

/-- What is answered to an operation after a past, when nothing is kept
but the past. -/
def afresh (env : Environment) (past : List Operation) :
    Operation → Except Error Answer
  | .setVariable _ none => .ok .done
  | .setVariable name (some value) => do
    (Environment.check name value).mapError .badVariable
    return .done
  | .compile id layout => do
    let template ← (compile layout).mapError .badLayout
    return .compiled template.pieces.length (sameLayout past id layout)
  | .build _ config resolve => do
    let renderer ← buildAfresh env past config resolve
    return .built renderer.config
  | .render rendererId templateId event => do
    let renderer ← rendererAfresh env past rendererId
    let event ← event.mapError .badEvent
    let template ← templateAfresh past templateId
    let line ← (renderer.render event template).mapError .badLine
    return .text line
  | .levelName rendererId level => do
    let renderer ← rendererAfresh env past rendererId
    let name ← (renderer.levelName level).mapError .badLine
    return .text name
  | .template id => do
    let template ← templateAfresh past id
    return .template template

-- ==================================================== nothing to be found

variable {env : Environment} {past : List Operation} {op : Operation}

/-- Does an operation leave no layout and no configuration to be found? -/
structure Idle (env : Environment) (past : List Operation)
    (op : Operation) : Prop where
  layout : ∀ id, compiledLayout? id op = none
  config : ∀ id, builtConfig? env id past op = none
  ids : ∀ ids, addId op ids = ids

theorem Idle.templateAfresh_eq (h : Idle env past op) (id : Text) :
    templateAfresh (op :: past) id = templateAfresh past id := by
  rw [templateAfresh, templateAfresh, lastLayout?, lastLayout?, last?,
    h.layout]
  rfl

theorem Idle.rendererAfresh_eq (h : Idle env past op) (id : Text) :
    rendererAfresh env (op :: past) id = rendererAfresh env past id := by
  rw [rendererAfresh, rendererAfresh, lastConfig?, lastConfig?, last?,
    h.config]
  rfl

theorem Idle.compiledIds_eq (h : Idle env past op) :
    compiledIds (op :: past) = compiledIds past := by
  rw [compiledIds, compiledIds, List.foldr_cons, h.ids]

theorem idle_of_looks (h : op.Looks) : Idle env past op := by
  cases op with
  | setVariable name value => cases h
  | compile id layout => cases h
  | build id config resolve => cases h
  | render rendererId templateId event =>
      exact ⟨fun _ => rfl, fun _ => rfl, fun _ => rfl⟩
  | levelName rendererId level =>
      exact ⟨fun _ => rfl, fun _ => rfl, fun _ => rfl⟩
  | template id => exact ⟨fun _ => rfl, fun _ => rfl, fun _ => rfl⟩

/-- No id is told twice. -/
theorem nodup_compiledIds (past : List Operation) :
    (compiledIds past).Nodup := by
  induction past with
  | nil => exact List.nodup_nil
  | cons op past ih =>
      rw [compiledIds, List.foldr_cons]
      cases op with
      | compile id layout =>
          rw [addId]
          split
          · refine List.nodup_cons.2 ⟨?_, ih.filter _⟩
            intro hmem
            simpa using (List.mem_filter.1 hmem).2
          · exact ih
      | _ => exact ih

-- ============================================ changes of the environment

/-- What is found in a past is found without an operation that leaves
nothing, if nothing later depends on it. -/
theorem last?_append_cons {α : Type}
    {found : List Operation → Operation → Option α} {later : List Operation}
    (hop : found past op = none)
    (hlater : ∀ o ∈ later, ∀ p p', found p o = found p' o) :
    last? found (later ++ op :: past) = last? found (later ++ past) := by
  induction later with
  | nil =>
      show (found past op).or _ = _
      rw [hop]
      rfl
  | cons o later ih =>
      have hrest := ih fun o' ho' => hlater o' (List.mem_cons_of_mem o ho')
      rw [List.cons_append, List.cons_append, last?, last?, hrest,
        hlater o List.mem_cons_self _ (later ++ past)]

/-- Is a renderer of the id built as the environment resolves it? -/
def Operation.Resolves (id : Text) (op : Operation) : Prop :=
  ∃ config, op = .build id config true

/-- The renderer that an operation uses. -/
def Operation.renderer? : Operation → Option Text
  | .render id _ _ => some id
  | .levelName id _ => some id
  | _ => none

/-- Does an operation ignore the environment as it was before others: does
it resolve no renderer itself, and use none that the others resolve? -/
structure Operation.Ignores (op : Operation) (between : List Operation) :
    Prop where
  resolves_none : ∀ id, ¬ op.Resolves id
  uses_none : ∀ o ∈ between, ∀ id, o.Resolves id → op.renderer? ≠ some id

section Ignores

variable {name : Text} {value : Option Text} {later : List Operation}

theorem lastLayout?_of_setVariable (id : Text) :
    lastLayout? id (later ++ .setVariable name value :: past)
      = lastLayout? id (later ++ past) :=
  last?_append_cons rfl fun _ _ _ _ => rfl

theorem templateAfresh_of_setVariable (id : Text) :
    templateAfresh (later ++ .setVariable name value :: past) id
      = templateAfresh (later ++ past) id := by
  rw [templateAfresh, templateAfresh, lastLayout?_of_setVariable]

theorem sameLayout_of_setVariable (id layout : Text) :
    sameLayout (later ++ .setVariable name value :: past) id layout
      = sameLayout (later ++ past) id layout := by
  have hids : compiledIds (later ++ .setVariable name value :: past)
      = compiledIds (later ++ past) := by
    rw [compiledIds, compiledIds, List.foldr_append, List.foldr_append]
    rfl
  unfold sameLayout
  simp only [hids, lastLayout?_of_setVariable]

/-- A variable that is set does not matter to a renderer, unless one is
resolved under its id later on. -/
theorem rendererAfresh_of_setVariable {id : Text}
    (h : ∀ o ∈ later, ¬ o.Resolves id) :
    rendererAfresh env (later ++ .setVariable name value :: past) id
      = rendererAfresh env (later ++ past) id := by
  have hlater : ∀ o ∈ later, ∀ p p',
      builtConfig? env id p o = builtConfig? env id p' o := by
    intro o ho p p'
    cases o with
    | build other config resolve =>
        rw [builtConfig?, builtConfig?]
        by_cases hid : other = id
        · cases resolve with
          | false => rfl
          | true => exact absurd ⟨config, hid ▸ rfl⟩ (h _ ho)
        · rw [if_neg hid, if_neg hid]
    | _ => rfl
  rw [rendererAfresh, rendererAfresh, lastConfig?, lastConfig?,
    last?_append_cons rfl hlater]

/-- A change of the environment does not matter to an operation that
ignores it. -/
theorem afresh_of_setVariable (h : op.Ignores later) :
    afresh env (later ++ .setVariable name value :: past) op
      = afresh env (later ++ past) op := by
  have hrenderer : ∀ id, op.renderer? = some id →
      rendererAfresh env (later ++ .setVariable name value :: past) id
        = rendererAfresh env (later ++ past) id := fun id huses =>
    rendererAfresh_of_setVariable fun o ho hresolves =>
      h.uses_none o ho id hresolves huses
  cases op with
  | setVariable other value => cases value <;> rfl
  | compile id layout =>
      rw [afresh, afresh, sameLayout_of_setVariable]
  | build id config resolve =>
      cases resolve with
      | false => rfl
      | true => exact absurd ⟨config, rfl⟩ (h.resolves_none id)
  | render rendererId templateId event =>
      rw [afresh, afresh, hrenderer rendererId rfl,
        templateAfresh_of_setVariable]
  | levelName rendererId level =>
      rw [afresh, afresh, hrenderer rendererId rfl]
  | template id => rw [afresh, afresh, templateAfresh_of_setVariable]

end Ignores

end Session

end Logline
