/-
The ways to choose a date style. A request can ask for one, a variable of
the environment can say one, and the configuration has one. The tool looks
at these in two places: the variable is read when the configuration is
resolved, and what the request asks for is read after that.

Both readings come to the same words, and both of them put the style in
the same field. So after them there is one configuration left, on which
the rest of the way depends (`line_eq_settled`), and it is enough to
compare the configurations that the ways settle on. The request's style
replaces what the variable has said, the variable's replaces what the
configuration had (`settled_text`, `settled_set`). They differ only in
the complaint about a word that is no style, and in what a bad variable
does: it is read even if the request asks for a style.
-/
import Logline.Proofs.Environment
import Logline.Tool
import Mathlib.Control.Monad.Basic

namespace Logline

open Calendar Layout

/-- Is an error about a setting: the environment, or the date style that
is asked for? -/
inductive ToolError.IsSetting : ToolError → Prop where
  | environment (why : ConfigError) : IsSetting (.environment why)
  | unknownStyle (asked : Text) : IsSetting (.unknownStyle asked)
  | styleNotText (kind : Text) : IsSetting (.styleNotText kind)

namespace RenderRequest

/-- The request with another date style, or with none. -/
def withStyle (r : RenderRequest) (style : Value) : RenderRequest :=
  { r with dateStyle := style }

/-- The configuration that a request settles on. -/
def settled (r : RenderRequest) (env : Environment) (config : Config) :
    Except ToolError Config :=
  (config.resolve env).mapError .environment >>= r.styled

/-- The line of a request whose configuration is settled. -/
def lineUnder (r : RenderRequest) (now : Timestamp) (settled : Config) :
    Except ToolError Text := do
  let checked ← r.event.check.mapError .badEvent
  let template ← compileTool r.layout
  let event ← (eventOf now settled.levelNames checked).mapError .badLevel
  let renderer ← (Renderer.ofConfig settled).mapError .badLine
  (renderer.render event template).mapError .badLine

-- ================================================ behind the settings

section Settled

variable {r : RenderRequest} {now : Timestamp} {env env' : Environment}
  {config config' : Config} {why : ToolError}

theorem line_eq_settled (r : RenderRequest) (now : Timestamp)
    (env : Environment) (config : Config) :
    r.line now env config = r.settled env config >>= r.lineUnder now :=
  (bind_assoc _ _ _).symm

/-- Requests that differ in their date style only, and settle on the same
configuration, have the same line. -/
theorem line_congr_settled {style style' : Value}
    (h : (r.withStyle style).settled env config
      = (r.withStyle style').settled env' config') :
    (r.withStyle style).line now env config
      = (r.withStyle style').line now env' config' := by
  rw [line_eq_settled, line_eq_settled, h]
  rfl

/-- If they settle on the same or on nothing, they have the same line or
none. -/
theorem toOption_line_congr_settled {style style' : Value}
    (h : ((r.withStyle style).settled env config).toOption
      = ((r.withStyle style').settled env' config').toOption) :
    ((r.withStyle style).line now env config).toOption
      = ((r.withStyle style').line now env' config').toOption := by
  rw [line_eq_settled, line_eq_settled, toOption_bind, toOption_bind, h]
  rfl

theorem not_isSetting_of_mapError {α ε : Type} {x : Except ε α}
    {f : ε → ToolError} (hf : ∀ found, ¬ (f found).IsSetting)
    (h : x.mapError f = .error why) : ¬ why.IsSetting := by
  obtain ⟨found, -, rfl⟩ := mapError_eq_error_iff.1 h
  exact hf found

/-- Once the configuration is settled, no setting is to blame. -/
theorem not_isSetting_of_lineUnder (h : r.lineUnder now config = .error why) :
    ¬ why.IsSetting := by
  rcases bind_eq_error_iff.1 h with h | ⟨checked, -, h⟩
  · exact not_isSetting_of_mapError nofun h
  rcases bind_eq_error_iff.1 h with h | ⟨template, -, h⟩
  · exact not_isSetting_of_mapError nofun h
  rcases bind_eq_error_iff.1 h with h | ⟨event, -, h⟩
  · exact not_isSetting_of_mapError nofun h
  rcases bind_eq_error_iff.1 h with h | ⟨renderer, -, h⟩
  · exact not_isSetting_of_mapError nofun h
  · exact not_isSetting_of_mapError nofun h

/-- So a setting is to blame for a missing line exactly when it is to
blame for a missing configuration. -/
theorem line_eq_error_iff_settled (hwhy : why.IsSetting) :
    r.line now env config = .error why
      ↔ r.settled env config = .error why := by
  rw [line_eq_settled, bind_eq_error_iff]
  constructor
  · rintro (h | ⟨settled, -, h⟩)
    · exact h
    · exact absurd hwhy (not_isSetting_of_lineUnder h)
  · intro h
    exact .inl h

end Settled

-- ==================================================== settling a style

section Settling

variable (r : RenderRequest) {s : Text} (env : Environment)
  (config : Config)

theorem styled_text_eq (hs : s ≠ []) :
    (r.withStyle (.text s)).styled config
      = match readStyle? s with
        | some style => .ok { config with dateStyle := style.name }
        | none => .error (.unknownStyle s) := by
  cases s with
  | nil => exact absurd rfl hs
  | cons c rest => rfl

/-- What is asked for is put in place exactly when the variable takes it. -/
theorem styled_text (hs : s ≠ []) :
    (r.withStyle (.text s)).styled config
      = if Variable.dateStyle.Takes s then
          .ok { config with dateStyle := normalized s }
        else .error (.unknownStyle s) := by
  have hname := readStyle?_map_name s
  rw [styled_text_eq r config hs]
  split at hname
  · next htakes =>
    obtain ⟨style, hstyle, hname⟩ := Option.map_eq_some_iff.1 hname
    rw [if_pos htakes, hstyle, ← hname]
  · next htakes =>
    rw [if_neg htakes, Option.map_eq_none_iff.1 hname]

/-- A style that is asked for is the one that is settled on, but the
environment is looked at all the same. -/
theorem settled_text (hs : s ≠ []) :
    (r.withStyle (.text s)).settled env config
      = if env.Valid .dateStyle then
          if env.Valid .strictLevels then
            if Variable.dateStyle.Takes s then
              .ok { config.overridden env with dateStyle := normalized s }
            else .error (.unknownStyle s)
          else .error (.environment .strictVariable)
        else .error (.environment .styleVariable) := by
  unfold settled
  rw [Config.resolve_eq]
  split
  · split
    · exact r.styled_text (config.overridden env) hs
    · rfl
  · rfl

/-- Where no style is asked for, the variable's is settled on if it says
one, and the configuration's if not. -/
theorem settled_null (value : Option Text) :
    (r.withStyle .null).settled (env.set .dateStyle value) config
      = if (env.set .dateStyle value).Valid .dateStyle then
          if env.Valid .strictLevels then
            .ok { config.overridden env with
              dateStyle :=
                (value.filter (· ≠ [])).elim config.dateStyle normalized }
          else .error (.environment .strictVariable)
        else .error (.environment .styleVariable) := by
  have hne : Variable.strictLevels ≠ .dateStyle := by decide
  unfold settled
  rw [Config.resolve_eq, Config.overridden_set_dateStyle]
  simp only [Environment.valid_set_of_ne hne]
  split
  · split <;> rfl
  · rfl

theorem settled_set (hs : s ≠ []) :
    (r.withStyle .null).settled (env.set .dateStyle (some s)) config
      = if Variable.dateStyle.Takes s then
          if env.Valid .strictLevels then
            .ok { config.overridden env with dateStyle := normalized s }
          else .error (.environment .strictVariable)
        else .error (.environment .styleVariable) := by
  have hgiven := Environment.given?_set_self env .dateStyle hs
  have hsays : (some s).filter (· ≠ []) = some s := hgiven
  rw [settled_null, hsays]
  simp only [Environment.valid_iff_of_given? hgiven]
  rfl

theorem settled_clear :
    (r.withStyle .null).settled (env.set .dateStyle none) config
      = if env.Valid .strictLevels then
          .ok { config.overridden env with dateStyle := config.dateStyle }
        else .error (.environment .strictVariable) := by
  have hvalid : (env.set .dateStyle none).Valid .dateStyle :=
    Environment.valid_of_given?_eq_none rfl
  rw [settled_null, if_pos hvalid]
  rfl

end Settling

-- ========================================================= the two ways

section Ways

variable (r : RenderRequest) {s : Text} {env : Environment}
  (config : Config)

/-- Both ways accept the same words, and settle on the same. -/
theorem settled_text_eq_settled_set (hs : s ≠ [])
    (hvalid : env.Valid .dateStyle) (hknown : Variable.dateStyle.Takes s) :
    (r.withStyle (.text s)).settled env config
      = (r.withStyle .null).settled (env.set .dateStyle (some s)) config := by
  rw [settled_text r env config hs, settled_set r env config hs,
    if_pos hvalid, if_pos hknown]
  simp only [if_pos hknown]

/-- The variable does what the configuration's own style does where the
variable says nothing. -/
theorem settled_set_eq_settled_clear (hs : s ≠ [])
    (hknown : Variable.dateStyle.Takes s) :
    (r.withStyle .null).settled (env.set .dateStyle (some s)) config
      = (r.withStyle .null).settled (env.set .dateStyle none)
        { config with dateStyle := normalized s } := by
  rw [settled_set r env config hs, settled_clear, if_pos hknown]
  rfl

/-- A style that is asked for makes up for whatever the variable and the
configuration say, if the variable says what it may. -/
theorem settled_text_set (hs : s ≠ []) (hvalid : env.Valid .dateStyle)
    {value : Option Text}
    (hvalue : (env.set .dateStyle value).Valid .dateStyle) (style : Text) :
    (r.withStyle (.text s)).settled (env.set .dateStyle value)
        { config with dateStyle := style }
      = (r.withStyle (.text s)).settled env config := by
  have hne : Variable.strictLevels ≠ .dateStyle := by decide
  rw [settled_text _ _ _ hs, settled_text _ _ _ hs, if_pos hvalue,
    if_pos hvalid, Config.overridden_set_dateStyle]
  simp only [Environment.valid_set_of_ne hne]
  rfl

/-- A style that is asked for is refused for its name exactly where it is
not known, and the environment is valid. -/
theorem settled_text_eq_error_iff (hs : s ≠ [])
    (hvalid : env.Valid .dateStyle) :
    (r.withStyle (.text s)).settled env config = .error (.unknownStyle s)
      ↔ env.Valid .strictLevels ∧ ¬ Variable.dateStyle.Takes s := by
  rw [settled_text r env config hs, if_pos hvalid]
  by_cases hstrict : env.Valid .strictLevels
  · rw [if_pos hstrict]
    by_cases hknown : Variable.dateStyle.Takes s
    · rw [if_pos hknown]
      exact ⟨(nomatch ·), fun h => absurd hknown h.2⟩
    · rw [if_neg hknown]
      exact ⟨fun _ => ⟨hstrict, hknown⟩, fun _ => rfl⟩
  · rw [if_neg hstrict]
    exact ⟨(nomatch ·), fun h => absurd h.1 hstrict⟩

theorem settled_set_eq_error_iff (hs : s ≠ []) :
    (r.withStyle .null).settled (env.set .dateStyle (some s)) config
        = .error (.environment .styleVariable)
      ↔ ¬ Variable.dateStyle.Takes s := by
  rw [settled_set r env config hs]
  by_cases hknown : Variable.dateStyle.Takes s
  · rw [if_pos hknown]
    refine ⟨fun h => ?_, fun hnot => absurd hknown hnot⟩
    split at h
    · cases h
    · cases h
  · rw [if_neg hknown]
    exact ⟨fun _ => hknown, fun _ => rfl⟩

/-- No way leads from a word that is no style to a configuration. -/
theorem toOption_settled (hs : s ≠ []) (hvalid : env.Valid .dateStyle) :
    ((r.withStyle (.text s)).settled env config).toOption
      = ((r.withStyle .null).settled (env.set .dateStyle (some s))
          config).toOption := by
  by_cases hknown : Variable.dateStyle.Takes s
  · rw [settled_text_eq_settled_set r config hs hvalid hknown]
  · rw [settled_text r env config hs, settled_set r env config hs,
      if_pos hvalid, if_neg hknown]
    split
    · rfl
    · rfl

end Ways

/-- A date style can be asked for by a request, or be said by the
environment's variable. Let the variable say what it may before. Then the
two ways of choosing a style have the same line, or neither has one; the
errors are the same as well if the style is known. What the variable and
the configuration say beside a style that is asked for does not matter,
nor what the configuration says beside the variable, and a known style
that the variable says is worth as much as one of the configuration that
nothing overrides. Each way complains about exactly the words that are no
style, unless something was wrong before. Last, if the variable says what
it may not, no request helps. -/
theorem line_style_exact (r : RenderRequest) (now : Timestamp)
    (env : Environment) (config : Config) {s : Text} (hs : s ≠ []) :
    let asked := (r.withStyle (.text s)).line now
    let left := (r.withStyle .null).line now
    let saying := env.set .dateStyle (some s)
    (env.Valid .dateStyle →
        (asked env config).toOption = (left saying config).toOption
          ∧ (Variable.dateStyle.Takes s →
            asked env config = left saying config)
          ∧ (asked env config = .error (.unknownStyle s)
            ↔ env.Valid .strictLevels ∧ ¬ Variable.dateStyle.Takes s)
          ∧ ∀ value style, (env.set .dateStyle value).Valid .dateStyle →
            asked (env.set .dateStyle value) { config with dateStyle := style }
              = asked env config)
      ∧ (left saying config = .error (.environment .styleVariable)
        ↔ ¬ Variable.dateStyle.Takes s)
      ∧ (∀ style, left saying { config with dateStyle := style }
        = left saying config)
      ∧ (Variable.dateStyle.Takes s → left saying config
        = left (env.set .dateStyle none)
          { config with dateStyle := normalized s })
      ∧ (¬ env.Valid .dateStyle →
        asked env config = .error (.environment .styleVariable)) := by
  intro asked left saying
  have hrefused : left saying config = .error (.environment .styleVariable)
      ↔ ¬ Variable.dateStyle.Takes s :=
    (line_eq_error_iff_settled (.environment _)).trans
      (r.settled_set_eq_error_iff config hs)
  refine ⟨fun hvalid => ⟨?_, ?_, ?_, ?_⟩, hrefused, ?_, ?_, ?_⟩
  · exact toOption_line_congr_settled (r.toOption_settled config hs hvalid)
  · intro hknown
    exact line_congr_settled
      (r.settled_text_eq_settled_set config hs hvalid hknown)
  · exact (line_eq_error_iff_settled (.unknownStyle s)).trans
      (r.settled_text_eq_error_iff config hs hvalid)
  · intro value style hvalue
    exact line_congr_settled (r.settled_text_set config hs hvalid hvalue style)
  · intro style
    refine line_congr_settled ?_
    exact (r.settled_set env _ hs).trans (r.settled_set env config hs).symm
  · intro hknown
    exact line_congr_settled (r.settled_set_eq_settled_clear config hs hknown)
  · intro hinvalid
    refine (line_eq_error_iff_settled (.environment _)).2 ?_
    rw [settled_text r env config hs, if_neg hinvalid]

/-- A style in other letters and between blanks is preferred to that of
the variable, and both to a style of the configuration that is not known.
It is of no use if the variable's is not known either. -/
theorem line_style_exact_iso :
    let r : RenderRequest := ⟨"%d\x7b2006\x7d %m",
      ⟨.text "root", .int 0, .text "boot", .text "2025-12-30"⟩, .null⟩
    let now := Timestamp.first
    let env := Environment.empty.set .dateStyle (some "STRFTIME")
    let config : Config := { dateStyle := "iso" }
    (r.withStyle (.text " Reference\n")).line now env config
        = .ok "2025 boot"
      ∧ (r.withStyle .null).line now
          (env.set .dateStyle (some " Reference\n")) config
        = .ok "2025 boot"
      ∧ (r.withStyle (.text "iso")).line now env config
        = .error (.unknownStyle "iso")
      ∧ (r.withStyle (.text "reference")).line now
          (env.set .dateStyle (some "iso")) config
        = .error (.environment .styleVariable) := by
  intro r now env config
  have hvalid : env.Valid .dateStyle := by decide +kernel
  have hknown : Variable.dateStyle.Takes " Reference\n" := by decide +kernel
  have hunknown : ¬ Variable.dateStyle.Takes "iso" := by decide +kernel
  have hinvalid : ¬ (env.set .dateStyle (some "iso")).Valid .dateStyle := by
    decide +kernel
  have hline : (r.withStyle .null).line now (env.set .dateStyle none)
      { config with dateStyle := normalized " Reference\n" }
        = .ok "2025 boot" := by decide +kernel
  obtain ⟨hasked, -, -, hset, -⟩ :=
    r.line_style_exact now env config (s := " Reference\n") (by decide)
  obtain ⟨-, hsame, -⟩ := hasked hvalid
  have hleft := (hset hknown).trans hline
  obtain ⟨hasked, -⟩ :=
    r.line_style_exact now env config (s := "iso") (by decide)
  obtain ⟨-, -, hrefused, -⟩ := hasked hvalid
  obtain ⟨-, -, -, -, hnone⟩ := r.line_style_exact now
    (env.set .dateStyle (some "iso")) config (s := "reference") (by decide)
  exact ⟨(hsame hknown).trans hleft, hleft,
    hrefused.2 ⟨by decide +kernel, hunknown⟩, hnone hinvalid⟩

end RenderRequest

end Logline
