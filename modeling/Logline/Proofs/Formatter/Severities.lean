/-
Levels in the lines of a formatter that the environment asks for. The
environment cannot take names out of the table of levels, and a record's
severity falls into one of the first six levels, whatever number it is. So
the level of a record always has its name, and the two variables about
levels outside the table have nothing to decide.

The severities stand the other way round than the ordinals: a level is
reached where its threshold is (`ordinal_ofNumber_le_iff`), so a greater
severity has no greater ordinal.

What else a line shows comes from the template and the date style, and
these are the same in two environments that differ in those two variables
only. The renderers then name the level alike, and that is all that
counts (`Renderer.render_congr`).
-/
import Logline.Formatter
import Logline.Proofs.Environment
import Logline.Proofs.Tool.Resolution

namespace Logline

open Calendar Layout

-- =========================================================== severities

namespace Severity

/-- The names of the levels that severities fall into. -/
def reachedNames : List Text :=
  ["FATAL", "ERROR", "WARN", "INFO", "DEBUG", "TRACE"]

/-- A level but the last is reached from its threshold on. -/
theorem ordinal_ofNumber_le_iff (n : Int) {place : Nat} (h : place < 5) :
    (ofNumber n).ordinal ≤ place ↔ 50 - 10 * (place : Int) ≤ n := by
  unfold ofNumber
  split_ifs <;> simp only [ordinal] <;> omega

theorem ofNumber_ne_all (n : Int) : ofNumber n ≠ .all := by
  unfold ofNumber
  split_ifs <;> exact nofun

/-- The name of a level that is reached stands at the level's place. -/
theorem reachedNames_ordinal {s : Severity} (h : s ≠ .all) :
    reachedNames[s.ordinal]? = some s.name := by
  cases s with
  | all => exact absurd rfl h
  | _ => rfl

theorem name_mem_reachedNames {s : Severity} (h : s ≠ .all) :
    s.name ∈ reachedNames :=
  List.mem_of_getElem? (reachedNames_ordinal h)

theorem idxOf_name {s : Severity} (h : s ≠ .all) :
    reachedNames.idxOf s.name = s.ordinal := by
  cases s with
  | all => exact absurd rfl h
  | _ => rfl

/-- The greater the severity, the less the ordinal. -/
theorem ordinal_ofNumber_antitone {n m : Int} (h : n ≤ m) :
    (ofNumber m).ordinal ≤ (ofNumber n).ordinal := by
  by_cases hlast : (ofNumber n).ordinal < 5
  · rw [ordinal_ofNumber_le_iff m hlast]
    have hn := (ordinal_ofNumber_le_iff n hlast).1 (Nat.le_refl _)
    exact Int.le_trans hn h
  · have hm := (List.getElem?_eq_some_iff.1
      (reachedNames_ordinal (ofNumber_ne_all m))).1
    have hlength : reachedNames.length = 6 := rfl
    omega

end Severity

/-- In the default table every level has its name, whatever is said of
levels outside. -/
theorem Renderer.levelName_severity {r : Renderer}
    (h : r.config.levelNames = defaultLevelNames) (s : Severity) :
    r.levelName (.number s.ordinal) = .ok s.name := by
  have hentry : defaultLevelNames[s.ordinal]? = some s.name := by
    rw [defaultLevelNames, List.getElem?_map, Severity.inOrder_ordinal]
    rfl
  have hinside : ¬ (Ordinal.number s.ordinal).IsOutside
      r.config.levelNames.length := by
    have hlt := (List.getElem?_eq_some_iff.1 hentry).1
    rw [h]
    unfold Ordinal.IsOutside
    show ¬ ((s.ordinal : Int) < 0 ∨ _ ≤ (s.ordinal : Int))
    omega
  obtain ⟨name, hget, hname⟩ := levelName_of_not_isOutside hinside
  rw [h] at hget
  rw [hname, Option.some.inj (hget.symm.trans hentry)]

theorem Record.level_of_event {r : Record} {event : Event}
    (h : r.event = .ok event) :
    event.level = .number (Severity.ofNumber r.severity).ordinal := by
  obtain ⟨moment, -, h⟩ := bind_eq_ok_iff.1 h
  obtain ⟨text, -, h⟩ := bind_eq_ok_iff.1 h
  cases h
  rfl

-- =========================================================== formatters

namespace Formatter

variable {f f' : Formatter} {r : Record} {env env' : Environment}

/-- Which formatter the environment asks for, if it can have one. -/
theorem ofEnvironment_eq_ok_iff :
    ofEnvironment env = .ok f
      ↔ env.Valid .dateStyle ∧ env.Valid .strictLevels
        ∧ compile ((env.given? .serverLayout).getD defaultLayout)
          = .ok f.template
        ∧ f.renderer.config = Config.overridden {} env := by
  unfold ofEnvironment ofLayout
  simp only [bind_eq_ok_iff, mapError_eq_ok_iff, Config.resolve_eq_ok_iff]
  constructor
  · rintro ⟨config, ⟨hstyle, hstrict, rfl⟩, template, hlayout, renderer,
      hrenderer, heq⟩
    cases heq
    exact ⟨hstyle, hstrict, hlayout, Renderer.config_of_ofConfig hrenderer⟩
  · rintro ⟨hstyle, hstrict, hlayout, hconfig⟩
    have hrenderer : Renderer.ofConfig f.renderer.config = .ok f.renderer :=
      Renderer.ofConfig_of_ofName? f.renderer.style_known
    rw [hconfig] at hrenderer
    exact ⟨_, ⟨hstyle, hstrict, rfl⟩, _, hlayout, _, hrenderer, rfl⟩

/-- The level of a record has its name in the lines of a formatter that the
environment asks for. -/
theorem levelName_of_event (h : ofEnvironment env = .ok f) {event : Event}
    (hevent : r.event = .ok event) :
    f.renderer.levelName event.level
      = .ok (Severity.ofNumber r.severity).name := by
  obtain ⟨-, -, -, hconfig⟩ := ofEnvironment_eq_ok_iff.1 h
  have hnames : f.renderer.config.levelNames = defaultLevelNames := by
    rw [hconfig]
    rfl
  rw [Record.level_of_event hevent, Renderer.levelName_severity hnames]

/-- The line of the event is all that the output of a record takes from
the formatter. -/
theorem format_congr (h : f'.eventLine r = f.eventLine r) :
    f'.format r = f.format r := by
  unfold format
  rw [h]

/-- Outputs are alike where the lines of the event are. -/
theorem format_congr_render
    (h : ∀ event, r.event = .ok event →
      f'.renderer.render event f'.template
        = f.renderer.render event f.template) :
    f'.format r = f.format r := by
  refine format_congr ?_
  unfold eventLine
  cases hevent : r.event with
  | error why => rfl
  | ok event =>
      show (f'.renderer.render event f'.template).mapError _ = _
      rw [h event hevent]
      rfl

/-- A complaint about a rendering comes from the rendering. -/
theorem exists_event_of_format_eq_badLine {why : RenderError}
    (h : f.format r = .error (.badLine why)) :
    ∃ event, r.event = .ok event
      ∧ f.renderer.render event f.template = .error why := by
  rcases bind_eq_error_iff.1 h with h | ⟨line, -, h⟩
  · rcases bind_eq_error_iff.1 h with h | ⟨event, hevent, h⟩
    · obtain ⟨found, -, heq⟩ := mapError_eq_error_iff.1 h
      cases heq
    · obtain ⟨found, hfound, heq⟩ := mapError_eq_error_iff.1 h
      cases heq
      exact ⟨event, mapError_eq_ok_iff.1 hevent, hfound⟩
  · rcases bind_eq_error_iff.1 h with h | ⟨kept, -, h⟩
    · obtain ⟨found, -, heq⟩ := mapError_eq_error_iff.1 h
      cases heq
    · cases h

/-- Does a formatter print a name for the level of a record: has the level
that name, and does the name stand wherever the template asks for it? -/
def PrintsLevel (f : Formatter) (r : Record) (name : Text) : Prop :=
  ∃ event, r.event = .ok event
    ∧ f.renderer.levelName event.level = .ok name
    ∧ f.format r = { f with template := f.template.named name }.format r

/-- The name that is printed is that of the level that the severity falls
into. -/
theorem printsLevel_iff (h : ofEnvironment env = .ok f) {name : Text} :
    f.PrintsLevel r name
      ↔ (∃ event, r.event = .ok event)
        ∧ name = (Severity.ofNumber r.severity).name := by
  constructor
  · rintro ⟨event, hevent, hname, -⟩
    rw [levelName_of_event h hevent, Except.ok.injEq] at hname
    exact ⟨⟨event, hevent⟩, hname.symm⟩
  · rintro ⟨⟨event, hevent⟩, rfl⟩
    refine ⟨event, hevent, levelName_of_event h hevent, ?_⟩
    refine (format_congr_render fun other hother => ?_).symm
    exact Renderer.render_named (levelName_of_event h hother) rfl other.level
      f.template

/-- Two environments that differ in what they say of levels outside the
table, and say what they may, ask for formatters of the same outputs. -/
theorem exists_formatter_of_agrees (h : ofEnvironment env = .ok f)
    (hagrees : ∀ v, v ≠ .unknownLevelName → v ≠ .strictLevels →
      env'.value v = env.value v)
    (hvalid : env'.Valid .strictLevels) :
    ∃ f', ofEnvironment env' = .ok f' ∧ ∀ r, f'.format r = f.format r := by
  obtain ⟨hstyle, -, hlayout, hconfig⟩ := ofEnvironment_eq_ok_iff.1 h
  have hdateStyle : env'.value .dateStyle = env.value .dateStyle :=
    hagrees _ (by decide) (by decide)
  have hserverLayout : env'.given? .serverLayout = env.given? .serverLayout :=
    Environment.given?_congr (hagrees _ (by decide) (by decide))
  have hknown : DateStyle.ofName? (Config.overridden {} env').dateStyle
      = some f.renderer.style := by
    have hsame : (Config.overridden {} env').dateStyle
        = f.renderer.config.dateStyle := by
      rw [hconfig, Config.overridden, Environment.given?_congr hdateStyle]
      rfl
    rw [hsame, f.renderer.style_known]
  obtain ⟨renderer, hconfig', hrenderer⟩ : ∃ renderer : Renderer,
      renderer.config = Config.overridden {} env'
        ∧ renderer.style = f.renderer.style :=
    ⟨⟨_, f.renderer.style, hknown⟩, rfl, rfl⟩
  have hformatter : ofEnvironment env' = .ok ⟨f.template, renderer⟩ := by
    refine ofEnvironment_eq_ok_iff.2 ⟨?_, hvalid, ?_, hconfig'⟩
    · exact (Environment.valid_congr hdateStyle).2 hstyle
    · rw [hserverLayout, hlayout]
  refine ⟨_, hformatter, fun r => format_congr_render fun event hevent => ?_⟩
  refine Renderer.render_congr hrenderer ?_ f.template
  rw [levelName_of_event h hevent]
  exact levelName_of_event hformatter hevent

/-- In the lines of a formatter that the environment asks for, the level
of every record is one of the six that severities fall into. The greater
the severity, the graver the level. No record has a level outside the
table. And what the environment says of such levels is not seen in any
output, as long as it says what it may. -/
theorem levels_of_ofEnvironment {env : Environment} {f : Formatter}
    (h : ofEnvironment env = .ok f) :
    (∀ r event, r.event = .ok event →
        ∃ name ∈ Severity.reachedNames, f.PrintsLevel r name)
      ∧ (∀ r r' name name', r.severity ≤ r'.severity →
        f.PrintsLevel r name → f.PrintsLevel r' name' →
        Severity.reachedNames.idxOf name' ≤ Severity.reachedNames.idxOf name)
      ∧ (∀ r level size,
        f.format r ≠ .error (.badLine (.levelOutside level size)))
      ∧ ∀ env' : Environment,
        (∀ v, v ≠ .unknownLevelName → v ≠ .strictLevels →
          env'.value v = env.value v) →
        env'.Valid .strictLevels →
        ∃ f', ofEnvironment env' = .ok f' ∧ ∀ r, f'.format r = f.format r := by
  have hreached := fun r : Record => Severity.ofNumber_ne_all r.severity
  refine ⟨?_, ?_, ?_, fun env' => exists_formatter_of_agrees h⟩
  · intro r event hevent
    exact ⟨_, Severity.name_mem_reachedNames (hreached r),
      (printsLevel_iff h).2 ⟨⟨event, hevent⟩, rfl⟩⟩
  · intro r r' name name' hle hname hname'
    obtain ⟨-, rfl⟩ := (printsLevel_iff h).1 hname
    obtain ⟨-, rfl⟩ := (printsLevel_iff h).1 hname'
    rw [Severity.idxOf_name (hreached r), Severity.idxOf_name (hreached r')]
    exact Severity.ordinal_ofNumber_antitone hle
  · intro r level size hformat
    obtain ⟨event, hevent, hrender⟩ := exists_event_of_format_eq_badLine hformat
    have herror := Renderer.levelName_of_render_eq_error hrender
    rw [levelName_of_event h hevent] at herror
    cases herror

/-- A severity below all thresholds has its level also where levels outside
the table are an error, and the output is that of the empty environment. -/
theorem levels_of_ofEnvironment_strict :
    let env := (Environment.empty.set .strictLevels (some "yes")).set
      .unknownLevelName (some "?")
    let r : Record :=
      { loggerName := .text "app"
        severity := -7
        created := .whole 0
        message := .text "boot"
        arguments := .ordered [] }
    ∃ f f', ofEnvironment env = .ok f ∧ ofEnvironment .empty = .ok f'
      ∧ (∃ name ∈ Severity.reachedNames, f.PrintsLevel r name)
      ∧ (∀ level size,
        f.format r ≠ .error (.badLine (.levelOutside level size)))
      ∧ f'.format r = f.format r := by
  intro env r
  obtain ⟨f, hf⟩ : ∃ f, ofEnvironment env = .ok f :=
    isOk_iff.1 (by decide +kernel)
  obtain ⟨event, hevent⟩ : ∃ event, r.event = .ok event :=
    isOk_iff.1 (by decide +kernel)
  obtain ⟨hprints, -, hnever, hsame⟩ := levels_of_ofEnvironment hf
  have hagrees : ∀ v, v ≠ .unknownLevelName → v ≠ .strictLevels →
      Environment.empty.value v = env.value v := by
    intro v hunknown hstrict
    show _ = if _ then _ else if _ then _ else _
    rw [if_neg hunknown, if_neg hstrict]
  obtain ⟨f', hf', hformat⟩ := hsame .empty hagrees (by decide +kernel)
  exact ⟨f, f', hf, hf', hprints r event hevent, hnever r, hformat r⟩

end Formatter

end Logline
