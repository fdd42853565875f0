/-
What can be wrong with a call of the render tool. Seven stages can be at
fault, in five parts of the program, and `Fails` says of each what its
fault is, by itself: whether another stage is at fault as well does not
matter to it. The answer does not tell all faults. It is the error of the
first stage that is at fault, or the line if none is.

The tool is a chain with one link for each stage, and the proof goes along
it from the end. `Answers` is what holds of the rest of the chain from a
stage on; a link in front keeps it, if it fails exactly where its stage
does (`answers_bind`). So all that has to be shown of a stage is when its
link fails.

Of the errors there are two kinds, and both are expected: the last stage
misses a place in the table, and all others do not like a value
(`kind_of_fails`).
-/
import Logline.Command
import Logline.Proofs.Strictness
import Logline.Proofs.Tool.Resolution

namespace Logline

open Calendar Layout Number

-- ===================================================== kinds of errors

/-- What an error is about: a value that does not suit, a place that a
table does not have, or something else. -/
inductive ErrorKind where
  | value
  | index
  | other
  deriving DecidableEq, Repr

/-- What an error of a tool is about. -/
def ToolError.kind : ToolError → ErrorKind
  | .styleNotText _ => .other
  | .badLine (.loggerNotText _ _) => .other
  | .badLine (.levelOutside _ _) => .index
  | _ => .value

/-- The program expects the errors about values and places. -/
theorem isExpected_iff (why : ToolError) :
    Command.isExpected why = true ↔ why.kind = .value ∨ why.kind = .index := by
  cases why with
  | badLine why => cases why <;> simp [Command.isExpected, ToolError.kind]
  | _ => simp [Command.isExpected, ToolError.kind]

-- =============================================================== calls

/-- The arguments of a call with a text for everything but the level. A
level is asked for by a text or by an ordinal that can be written down. -/
structure PlainCall where
  layout : Text
  loggerName : Text
  level : LevelAsked
  message : Text
  timestamp : Text
  dateStyle : Option Text := none
  level_size : ∀ n, level = .ordinal n →
    (Text.ofNat n.natAbs).length ≤ maxNumeral

namespace PlainCall

/-- The request of a call. -/
def request (c : PlainCall) : RenderRequest where
  layout := c.layout
  event :=
    { loggerName := .text c.loggerName
      level := match c.level with
        | .name t => .text t
        | .ordinal n => .int n
      message := .text c.message
      timestamp := .text c.timestamp }
  dateStyle := match c.dateStyle with
    | some asked => .text asked
    | none => .null

/-- The date style that is asked for; empty if none is. -/
def asked (c : PlainCall) : Text := c.dateStyle.getD []

end PlainCall

/-- What is looked at, in this order. -/
inductive Stage where
  | environment
  | askedStyle
  | timestamp
  | layout
  | level
  | style
  | outside
  deriving DecidableEq, Repr

/-- The place of a stage in the order. -/
def Stage.place : Stage → Nat
  | environment => 0
  | askedStyle => 1
  | timestamp => 2
  | layout => 3
  | level => 4
  | style => 5
  | outside => 6

theorem Stage.place_injective {s t : Stage} (h : s.place = t.place) :
    s = t := by
  cases s <;> cases t <;> first | rfl | cases h

/-- The fault of a stage, whatever may be wrong elsewhere. -/
inductive PlainCall.Fails (c : PlainCall) (env : Environment)
    (config : Config) : Stage → ToolError → Prop where
  /-- A variable of the environment cannot be read. -/
  | environment {why : ConfigError}
      (h : Overrides.ofEnvironment env = .error why) :
      Fails c env config .environment (.environment why)
  /-- A date style is asked for that there is not. -/
  | askedStyle (hasked : c.asked ≠ []) (hnone : readStyle? c.asked = none) :
      Fails c env config .askedStyle (.unknownStyle c.asked)
  /-- The timestamp cannot be read. -/
  | timestamp {why : TimestampError}
      (h : Timestamp.ofText c.timestamp = .error why) :
      Fails c env config .timestamp (.badEvent [.badTimestamp why])
  /-- The layout does not compile. -/
  | layout {why : Fault} (h : compile c.layout = .error why) :
      Fails c env config .layout (.badLayout why)
  /-- The level is not in the table. -/
  | level {why : LevelError}
      (h : c.level.resolve config.levelNames = .error why) :
      Fails c env config .level (.badLevel why)
  /-- No date style is asked for, neither by the call nor by the
  environment, and there is not the one of the configuration. -/
  | style {overrides : Overrides} (hasked : c.asked = [])
      (henv : Overrides.ofEnvironment env = .ok overrides)
      (hkept : overrides.style = none)
      (hnone : DateStyle.ofName? config.dateStyle = none) :
      Fails c env config .style (.badLine (.unknownStyle config.dateStyle))
  /-- The layout shows a level outside the table, which has to be in it. -/
  | outside {overrides : Overrides} {template : Template} {n : Int}
      (henv : Overrides.ofEnvironment env = .ok overrides)
      (hstrict : overrides.strictLevels.getD config.strictLevels = true)
      (hlevel : c.level.resolve config.levelNames = .ok n)
      (hout : (Ordinal.number n).IsOutside config.levelNames.length)
      (hlayout : compile c.layout = .ok template)
      (hpiece : ∃ piece ∈ template.pieces, piece.kind = .level) :
      Fails c env config .outside
        (.badLine (.levelOutside (.number n) config.levelNames.length))

namespace PlainCall

/-- A stage has one fault at most. -/
theorem Fails.unique {c : PlainCall} {env : Environment} {config : Config}
    {stage : Stage} {why why' : ToolError}
    (h : c.Fails env config stage why)
    (h' : c.Fails env config stage why') : why = why' := by
  cases h with
  | environment h =>
      cases h' with
      | environment h' =>
          cases h.symm.trans h'
          rfl
  | askedStyle =>
      cases h' with
      | askedStyle => rfl
  | timestamp h =>
      cases h' with
      | timestamp h' =>
          cases h.symm.trans h'
          rfl
  | layout h =>
      cases h' with
      | layout h' =>
          cases h.symm.trans h'
          rfl
  | level h =>
      cases h' with
      | level h' =>
          cases h.symm.trans h'
          rfl
  | style =>
      cases h' with
      | style => rfl
  | outside _ _ hlevel =>
      cases h' with
      | outside _ _ hlevel' =>
          cases hlevel.symm.trans hlevel'
          rfl

/-- Is a stage not at fault? -/
def Passes (c : PlainCall) (env : Environment) (config : Config)
    (stage : Stage) : Prop :=
  ∀ why, ¬ c.Fails env config stage why

variable {c : PlainCall} {env : Environment} {config : Config}

-- =============================================== along the stages

/-- Is an outcome what the stages from a place on come to: a result if
none of them is at fault, and else the error of the first? -/
def Answers (c : PlainCall) (env : Environment) (config : Config)
    (first : Nat) : Except ToolError Text → Prop
  | .ok _ => ∀ stage, first ≤ stage.place → c.Passes env config stage
  | .error why => ∃ stage, first ≤ stage.place ∧ c.Fails env config stage why
    ∧ ∀ earlier, first ≤ earlier.place → earlier.place < stage.place →
      c.Passes env config earlier

section Steps

variable {stage : Stage}

/-- Where a stage passes and all behind it, so do all from it on. -/
theorem passes_of_le {other : Stage} (hpass : c.Passes env config stage)
    (hrest : stage.place + 1 ≤ other.place → c.Passes env config other)
    (hle : stage.place ≤ other.place) : c.Passes env config other := by
  rcases Nat.eq_or_lt_of_le hle with heq | hlt
  · rw [← Stage.place_injective heq]
    exact hpass
  · exact hrest hlt

/-- A link in front of a chain, which fails exactly where its stage does. -/
theorem answers_bind (stage : Stage) {α : Type} {x : Except ToolError α}
    {f : α → Except ToolError Text}
    (hstage : ∀ why, c.Fails env config stage why ↔ x = .error why)
    (hrest : ∀ a, x = .ok a → c.Answers env config (stage.place + 1) (f a)) :
    c.Answers env config stage.place (x >>= f) := by
  cases hx : x with
  | error why =>
      refine ⟨stage, Nat.le_refl _, (hstage why).2 hx, ?_⟩
      intro earlier hle hlt
      omega
  | ok a =>
      have hpass : c.Passes env config stage := by
        intro why hfails
        rw [(hstage why).1 hfails] at hx
        cases hx
      have hnext := hrest a hx
      show c.Answers env config stage.place (f a)
      cases hfa : f a with
      | ok line =>
          rw [hfa] at hnext
          exact fun other => passes_of_le hpass (hnext other)
      | error why =>
          rw [hfa] at hnext
          obtain ⟨found, hle, hfails, hearlier⟩ := hnext
          refine ⟨found, Nat.le_of_succ_le hle, hfails, ?_⟩
          intro earlier hfirst hlt
          exact passes_of_le hpass (fun h => hearlier earlier h hlt) hfirst

/-- The last link. -/
theorem answers_last (stage : Stage) {x : Except ToolError Text}
    (hlast : ∀ other : Stage, other.place ≤ stage.place)
    (hstage : ∀ why, c.Fails env config stage why ↔ x = .error why) :
    c.Answers env config stage.place x := by
  have h : c.Answers env config stage.place (x >>= .ok) := by
    refine answers_bind stage hstage fun line _ other hle => ?_
    have hother := hlast other
    omega
  cases x with
  | ok line => exact h
  | error why => exact h

end Steps

-- ========================================================= the stages

/-- The stage of the environment is at fault exactly where resolving the
configuration fails. -/
theorem fails_environment_iff {why : ToolError} :
    c.Fails env config .environment why
      ↔ (config.resolve env).mapError .environment = .error why := by
  rw [mapError_eq_error_iff]
  constructor
  · intro hfails
    cases hfails with
    | environment h => exact ⟨_, bind_eq_error_iff.2 (.inl h), rfl⟩
  · rintro ⟨found, h, rfl⟩
    obtain h | ⟨_, -, h⟩ := bind_eq_error_iff.1 h
    · exact .environment h
    · cases h

/-- The date style that is asked for, if one is, takes the place of the
configuration's. -/
theorem styled_request (resolved : Config) :
    c.request.styled resolved
      = if c.asked = [] then .ok resolved
        else match readStyle? c.asked with
          | some style => .ok { resolved with dateStyle := style.name }
          | none => .error (.unknownStyle c.asked) := by
  unfold request asked RenderRequest.styled
  rcases c.dateStyle with _ | _ | ⟨ch, t⟩ <;> rfl

/-- The stage of the style that is asked for, where that style is put into
a configuration, whichever it is. -/
theorem fails_askedStyle_iff (resolved : Config) {why : ToolError} :
    c.Fails env config .askedStyle why
      ↔ c.request.styled resolved = .error why := by
  rw [styled_request]
  constructor
  · intro hfails
    cases hfails with
    | askedStyle hasked hnone => rw [if_neg hasked, hnone]
  · intro h
    split at h
    · cases h
    · next hasked =>
      split at h
      · cases h
      · next hnone =>
        cases h
        exact .askedStyle hasked hnone

/-- Of the fields only the timestamp can be at fault. -/
theorem check_request :
    c.request.event.check
      = ((Timestamp.ofText c.timestamp).mapError
          fun why => [.badTimestamp why]).map
        fun t => ⟨c.loggerName, c.level, c.message, some t⟩ := by
  have hlevel : EventRequest.checkLevel c.request.event.level
      = .ok c.level := by
    unfold request
    cases c.level <;> rfl
  have hmoment : EventRequest.checkMoment c.request.event.timestamp
      = ((Timestamp.ofText c.timestamp).mapError
          fun why => [.badTimestamp why]).map some := by
    show ((Timestamp.ofText c.timestamp).map some).mapError _ = _
    cases Timestamp.ofText c.timestamp <;> rfl
  unfold EventRequest.check
  rw [hlevel, hmoment]
  cases Timestamp.ofText c.timestamp <;> rfl

/-- The stage of the timestamp, where the event is checked. -/
theorem fails_timestamp_iff {why : ToolError} :
    c.Fails env config .timestamp why
      ↔ c.request.event.check.mapError .badEvent = .error why := by
  rw [check_request]
  constructor
  · intro hfails
    cases hfails with
    | timestamp h =>
        rw [h]
        rfl
  · intro h
    cases hread : Timestamp.ofText c.timestamp with
    | error found =>
        rw [hread] at h
        cases h
        exact .timestamp hread
    | ok t =>
        rw [hread] at h
        cases h

/-- The stage of the layout, where it is compiled. -/
theorem fails_layout_iff {why : ToolError} :
    c.Fails env config .layout why ↔ compileTool c.layout = .error why := by
  unfold compileTool
  rw [mapError_eq_error_iff]
  constructor
  · intro hfails
    cases hfails with
    | layout h => exact ⟨_, h, rfl⟩
  · rintro ⟨found, h, rfl⟩
    exact .layout h

/-- The event of a call whose fields are in order. -/
def event (c : PlainCall) (t : Timestamp) (n : Int) : Event :=
  ⟨.text c.loggerName, t.withDefaultZone Zone.utc, .number n,
    .text c.message⟩

theorem eventOf_request (now : Timestamp) (names : List Text)
    (t : Timestamp) :
    RenderRequest.eventOf now names
        ⟨c.loggerName, c.level, c.message, some t⟩
      = (c.level.resolve names).map (c.event t) := by
  unfold RenderRequest.eventOf
  cases c.level.resolve names <;> rfl

/-- The stage of the level, where the event is made of what was checked. -/
theorem fails_level_iff (now t : Timestamp) {why : ToolError} :
    c.Fails env config .level why
      ↔ (RenderRequest.eventOf now config.levelNames
          ⟨c.loggerName, c.level, c.message, some t⟩).mapError .badLevel
        = .error why := by
  rw [eventOf_request]
  constructor
  · intro hfails
    cases hfails with
    | level h =>
        rw [h]
        rfl
  · intro h
    cases hlevel : c.level.resolve config.levelNames with
    | error found =>
        rw [hlevel] at h
        cases h
        exact .level hlevel
    | ok n =>
        rw [hlevel] at h
        cases h

section Configured

variable {overrides : Overrides} {styled : Config}

theorem dateStyle_of_none (h : overrides.style = none) :
    (overrides.apply config).dateStyle = config.dateStyle := by
  show (overrides.style.map DateStyle.name).getD config.dateStyle = _
  rw [h]
  rfl

theorem dateStyle_of_some {style : DateStyle}
    (h : overrides.style = some style) :
    (overrides.apply config).dateStyle = style.name := by
  show (overrides.style.map DateStyle.name).getD config.dateStyle = _
  rw [h]
  rfl

/-- A date style that is not known is the configuration's own: none is
asked for, and the environment has none. -/
theorem dateStyle_of_unknown
    (hstyled : c.request.styled (overrides.apply config) = .ok styled)
    (hnone : DateStyle.ofName? styled.dateStyle = none) :
    c.asked = [] ∧ overrides.style = none
      ∧ styled.dateStyle = config.dateStyle := by
  rw [styled_request] at hstyled
  split at hstyled
  · next hasked =>
    cases hstyled
    cases hkept : overrides.style with
    | some style =>
        rw [dateStyle_of_some hkept, DateStyle.ofName?_name] at hnone
        cases hnone
    | none => exact ⟨hasked, rfl, dateStyle_of_none hkept⟩
  · split at hstyled
    · cases hstyled
      rw [DateStyle.ofName?_name] at hnone
      cases hnone
    · cases hstyled

theorem badLine_ofConfig_eq_error_iff {why : ToolError} :
    (Renderer.ofConfig styled).mapError .badLine = .error why
      ↔ DateStyle.ofName? styled.dateStyle = none
        ∧ why = .badLine (.unknownStyle styled.dateStyle) := by
  rw [mapError_eq_error_iff]
  constructor
  · rintro ⟨found, hfound, rfl⟩
    obtain ⟨hnone, rfl⟩ := Renderer.ofConfig_eq_error_iff.1 hfound
    exact ⟨hnone, rfl⟩
  · rintro ⟨hnone, rfl⟩
    exact ⟨_, Renderer.ofConfig_eq_error_iff.2 ⟨hnone, rfl⟩, rfl⟩

/-- A date style that is asked for leaves everything else as it is. -/
theorem strictLevels_of_styled
    (hstyled : c.request.styled (overrides.apply config) = .ok styled) :
    styled.strictLevels
      = overrides.strictLevels.getD config.strictLevels := by
  rw [styled_request] at hstyled
  split at hstyled
  · cases hstyled
    rfl
  · split at hstyled
    · cases hstyled
      rfl
    · cases hstyled

variable
  (henv : Overrides.ofEnvironment env = .ok overrides)
  (hstyled : c.request.styled (overrides.apply config) = .ok styled)
include henv hstyled

/-- The stage of the style is at fault exactly where no renderer is made:
a style that is not known by then is the configuration's own. -/
theorem fails_style_iff {why : ToolError} :
    c.Fails env config .style why
      ↔ (Renderer.ofConfig styled).mapError .badLine = .error why := by
  rw [badLine_ofConfig_eq_error_iff]
  constructor
  · intro hfails
    cases hfails with
    | style hasked henv' hkept hnone =>
        cases henv.symm.trans henv'
        rw [styled_request, if_pos hasked] at hstyled
        cases hstyled
        rw [dateStyle_of_none hkept]
        exact ⟨hnone, rfl⟩
  · rintro ⟨hnone, rfl⟩
    obtain ⟨hasked, hkept, hstyle⟩ := dateStyle_of_unknown hstyled hnone
    rw [hstyle] at hnone ⊢
    exact .style hasked henv hkept hnone

/-- The last stage is at fault exactly where rendering fails. Names and
strictness are those of the configuration in effect, which the style that
is asked for does not touch. -/
theorem fails_outside_iff {renderer : Renderer} {template : Template}
    {n : Int} {t : Timestamp} {why : ToolError}
    (hrenderer : Renderer.ofConfig styled = .ok renderer)
    (hlevel : c.level.resolve config.levelNames = .ok n)
    (hlayout : compile c.layout = .ok template) :
    c.Fails env config .outside why
      ↔ (renderer.render (c.event t n) template).mapError .badLine
        = .error why := by
  have hconfig := Renderer.config_of_ofConfig hrenderer
  have hnames : renderer.config.levelNames = config.levelNames := by
    rw [hconfig, RenderRequest.levelNames_of_styled hstyled]
    rfl
  have hstrict : renderer.config.strictLevels
      = overrides.strictLevels.getD config.strictLevels := by
    rw [hconfig, strictLevels_of_styled hstyled]
  rw [mapError_eq_error_iff]
  constructor
  · intro hfails
    cases hfails with
    | outside henv' hstrict' hlevel' hout hlayout' hpiece =>
        cases henv.symm.trans henv'
        cases hlevel.symm.trans hlevel'
        cases hlayout.symm.trans hlayout'
        rw [← hnames] at hout ⊢
        exact ⟨_, (Renderer.fails_iff hlayout rfl).2
          ⟨hstrict.trans hstrict', hout, hpiece, rfl⟩, rfl⟩
  · rintro ⟨found, hfound, rfl⟩
    obtain ⟨hstrict', hout, hpiece, rfl⟩ :=
      (Renderer.fails_iff hlayout rfl).1 hfound
    rw [hnames] at hout ⊢
    exact .outside henv (hstrict.symm.trans hstrict') hlevel hout hlayout
      hpiece

end Configured

-- ============================================================ the answer

/-- The answer to a call is that of its stages. -/
theorem answers_line (c : PlainCall) (now : Timestamp) (env : Environment)
    (config : Config) :
    c.Answers env config 0 (c.request.line now env config) := by
  -- one link for each stage, with what it finds for the links behind it
  refine answers_bind .environment
    (fun _ => fails_environment_iff) fun resolved hresolved => ?_
  obtain ⟨overrides, henv, heq⟩ :=
    bind_eq_ok_iff.1 (mapError_eq_ok_iff.1 hresolved)
  cases heq
  refine answers_bind .askedStyle
    (fun _ => fails_askedStyle_iff _) fun styled hstyled => ?_
  refine answers_bind .timestamp
    (fun _ => fails_timestamp_iff) fun checked hchecked => ?_
  rw [mapError_eq_ok_iff, check_request] at hchecked
  obtain ⟨t, -, rfl⟩ := map_eq_ok_iff.1 hchecked
  refine answers_bind .layout
    (fun _ => fails_layout_iff) fun template hlayout => ?_
  have hnames : styled.levelNames = config.levelNames :=
    (RenderRequest.levelNames_of_styled hstyled).trans rfl
  rw [hnames]
  refine answers_bind .level
    (fun _ => fails_level_iff now t) fun event hevent => ?_
  rw [mapError_eq_ok_iff, eventOf_request] at hevent
  obtain ⟨n, hlevel, rfl⟩ := map_eq_ok_iff.1 hevent
  refine answers_bind .style
    (fun _ => fails_style_iff henv hstyled) fun renderer hrenderer => ?_
  exact answers_last .outside (by intro other; cases other <;> decide)
    fun _ => fails_outside_iff henv hstyled (mapError_eq_ok_iff.1 hrenderer)
      hlevel (mapError_eq_ok_iff.1 hlayout)

/-- What the error of a stage is about: a place in the table at the last
stage, and a value at all others. -/
theorem kind_of_fails {stage : Stage} {why : ToolError}
    (h : c.Fails env config stage why) :
    why.kind = if stage = .outside then .index else .value := by
  cases h <;> rfl

section Answers

variable {x : Except ToolError Text} (h : c.Answers env config 0 x)
include h

/-- There is a result exactly when all stages pass. -/
theorem exists_ok_iff_of_answers :
    (∃ line, x = .ok line) ↔ ∀ stage, c.Passes env config stage := by
  cases x with
  | ok line => exact ⟨fun _ stage => h stage (Nat.zero_le _),
      fun _ => ⟨line, rfl⟩⟩
  | error why =>
      obtain ⟨stage, -, hfails, -⟩ := h
      refine ⟨fun ⟨_, hok⟩ => (nomatch hok), fun hall => ?_⟩
      exact absurd hfails (hall stage why)

/-- An error is exactly that of the first stage at fault. -/
theorem eq_error_iff_of_answers {why : ToolError} :
    x = .error why
      ↔ ∃ stage, c.Fails env config stage why
        ∧ ∀ earlier : Stage, earlier.place < stage.place →
          c.Passes env config earlier := by
  cases x with
  | ok line =>
      refine ⟨(nomatch ·), fun ⟨stage, hfails, _⟩ => ?_⟩
      exact absurd hfails (h stage (Nat.zero_le _) why)
  | error found =>
      obtain ⟨first, -, hfound, hearlier⟩ := h
      rw [Except.error.injEq]
      constructor
      · rintro rfl
        exact ⟨first, hfound, fun earlier =>
          hearlier earlier (Nat.zero_le _)⟩
      · rintro ⟨stage, hfails, hbefore⟩
        -- only one stage is the first
        rcases Nat.lt_trichotomy stage.place first.place with
          hlt | heq | hlt
        · exact absurd hfails (hearlier stage (Nat.zero_le _) hlt why)
        · cases Stage.place_injective heq
          exact hfound.unique hfails
        · exact absurd hfound (hbefore first hlt found)

end Answers

/-- The render tool gives a line exactly when no stage is at fault. It
fails with exactly the error of the first stage that is. The errors of the
last stage are about a place that the table does not have, and those of
all others about a value; the command line expects them all. -/
theorem line_exact (c : PlainCall) (now : Timestamp) (env : Environment)
    (config : Config) :
    ((∃ line, c.request.line now env config = .ok line)
        ↔ ∀ stage, c.Passes env config stage)
      ∧ (∀ why, c.request.line now env config = .error why
        ↔ ∃ stage, c.Fails env config stage why
          ∧ ∀ earlier : Stage, earlier.place < stage.place →
            c.Passes env config earlier)
      ∧ ∀ stage why, c.Fails env config stage why →
        why.kind = (if stage = .outside then .index else .value)
          ∧ Command.isExpected why = true := by
  have hanswers := c.answers_line now env config
  refine ⟨exists_ok_iff_of_answers hanswers, fun why =>
    eq_error_iff_of_answers hanswers, fun stage why hfails => ?_⟩
  have hkind := kind_of_fails hfails
  refine ⟨hkind, (isExpected_iff why).2 ?_⟩
  rw [hkind]
  split
  · exact .inr rfl
  · exact .inl rfl

/-- The date style that is asked for saves a call from that of the
configuration, but not from its strictness. -/
theorem line_exact_strict :
    let c : PlainCall :=
      { layout := "%m%p"
        loggerName := "root"
        level := .ordinal (-1)
        message := "boot"
        timestamp := "2025-12-30"
        dateStyle := some " Reference"
        level_size := by
          rintro _ ⟨⟩
          decide }
    let now := Timestamp.first
    let why : ToolError := .badLine (.levelOutside (.number (-1)) 7)
    c.request.line now .empty { dateStyle := "iso", strictLevels := true }
        = .error why
      ∧ why.kind = .index := by
  intro c now why
  obtain ⟨-, herror, hkind⟩ := c.line_exact now .empty
    { dateStyle := "iso", strictLevels := true }
  have hlayout : compile c.layout
      = .ok ⟨[⟨.message, []⟩, ⟨.level, []⟩], "%m%p"⟩ := by decide +kernel
  have hfails : c.Fails .empty { dateStyle := "iso", strictLevels := true }
      .outside why :=
    .outside rfl rfl rfl (.inl (by decide)) hlayout
      ⟨_, List.mem_cons_of_mem _ List.mem_cons_self, rfl⟩
  have hstyle : readStyle? c.asked = some .reference := by decide +kernel
  have htimestamp : ∃ t, Timestamp.ofText c.timestamp = .ok t :=
    isOk_iff.1 (by decide +kernel)
  refine ⟨(herror why).2 ⟨.outside, hfails, ?_⟩, (hkind _ _ hfails).1⟩
  intro earlier hlt found hfound
  cases hfound with
  | environment h => cases h
  | askedStyle _ hnone => cases hstyle.symm.trans hnone
  | timestamp h =>
      obtain ⟨t, ht⟩ := htimestamp
      cases ht.symm.trans h
  | layout h => cases hlayout.symm.trans h
  | level h => cases h
  | style hasked => cases hasked
  | outside => exact absurd hlt (Nat.lt_irrefl _)

end PlainCall

end Logline
