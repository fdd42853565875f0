/-
Where a rendering can fail. A template that comes from a layout has no
piece of an unknown kind, and dates and payloads can always be shown. So
there is one failure left, and it has to be asked for: a level outside
the table, where the configuration is strict and a piece shows the level
(`Renderer.fails_iff`).

Dates need an argument of their own. A split pattern keeps the words of
its tokens only, and writing a date looks every word up again. That this
finds each of them, in any pattern, is `concatM_show?`.

A line that a strict configuration gives is the line of every other one
with the same table and style. Strictness and the name of unknown levels
count for levels outside the table, and a strict line shows none.
-/
import Logline.Proofs.Calendar.Splitting
import Logline.Proofs.Chain
import Logline.Proofs.Layout.Roundtrip
import Logline.Proofs.Rendering

namespace Logline

open Calendar Layout

-- =================================================== tokens by their words

namespace Calendar

/-- What a part of a pattern shows of a moment, as far as its word tells.
A token whose word stands for nothing shows nothing. -/
def Part.show? (t : Timestamp) (part : Part) : Option Text :=
  if part.isToken then (Token.ofWord? part.text).map (Token.show t)
  else some part.text

/-- Putting a character in front adds no token. -/
theorem mem_of_mem_consLiteral {c : Char} {chunks : List Chunk}
    {found : Token} (h : .token found ∈ consLiteral c chunks) :
    .token found ∈ chunks := by
  cases chunks with
  | nil => cases List.mem_singleton.1 h
  | cons chunk chunks =>
      cases chunk with
      | token other =>
          rcases List.mem_cons.1 h with heq | h
          · cases heq
          · exact h
      | literal t =>
          rcases List.mem_cons.1 h with heq | h
          · cases heq
          · exact List.mem_cons_of_mem _ h

/-- A token of a pattern is read somewhere in it. -/
theorem exists_read?_of_mem_split {pattern : Text} {found : Token}
    (h : .token found ∈ split pattern) :
    ∃ t n, Token.read? t = some (found, n) := by
  induction pattern using split.induct with
  | case1 =>
      rw [split] at h
      cases h
  | case2 c rest first n hread ih =>
      rw [split_of_read? hread] at h
      rcases List.mem_cons.1 h with heq | h
      · cases heq
        exact ⟨_, n, hread⟩
      · exact ih h
  | case3 c rest hread ih =>
      rw [split_of_not_read? hread] at h
      exact ih (mem_of_mem_consLiteral h)

theorem show?_part {pattern : Text} {chunk : Chunk}
    (h : chunk ∈ split pattern) (t : Timestamp) :
    chunk.part.show? t = some (chunk.show t) := by
  cases chunk with
  | literal s => rfl
  | token found =>
      obtain ⟨s, n, hread⟩ := exists_read?_of_mem_split h
      show (Token.ofWord? found.word).map (Token.show t)
        = some (found.show t)
      rw [Token.ofWord?_of_read? hread]
      rfl

/-- What a pattern shows can be told from the words of its tokens. -/
theorem concatM_show? (t : Timestamp) (pattern : Text) :
    concatM (Part.show? t) ((split pattern).map Chunk.part)
      = some (formatReference t pattern) := by
  unfold formatReference
  have hall : ∀ chunk ∈ split pattern,
      chunk.part.show? t = some (chunk.show t) :=
    fun chunk hchunk => show?_part hchunk t
  generalize split pattern = chunks at hall
  induction chunks with
  | nil => rfl
  | cons chunk chunks ih =>
      have hfirst := hall chunk List.mem_cons_self
      have hrest := ih fun c hc => hall c (List.mem_cons_of_mem chunk hc)
      rw [List.map_cons, concatM, hfirst, hrest, List.flatMap_cons]
      rfl

end Calendar

-- ======================================================= levels outside

/-- Is there no place for the level in a table of so many names? -/
def Ordinal.IsOutside (level : Ordinal) (size : Nat) : Prop :=
  level.toInt < 0 ∨ (size : Int) ≤ level.toInt

namespace Renderer

variable {r : Renderer} {event : Event} {why : RenderError}

/-- A level inside the table has its entry, whatever is said of others. -/
theorem levelName_of_not_isOutside {level : Ordinal}
    (h : ¬ level.IsOutside r.config.levelNames.length) :
    ∃ name, r.config.levelNames[level.toInt.toNat]? = some name
      ∧ r.levelName level = .ok name := by
  unfold Ordinal.IsOutside at h
  have hlt : level.toInt.toNat < r.config.levelNames.length := by omega
  refine ⟨r.config.levelNames[level.toInt.toNat],
    List.getElem?_eq_getElem hlt, ?_⟩
  have hpos : 0 ≤ level.toInt := by omega
  unfold levelName
  simp only [if_pos hpos, List.getElem?_eq_getElem hlt]

/-- A level outside the table is an error to strict renderers, and has
the name for unknown levels with the others. -/
theorem levelName_of_isOutside {level : Ordinal}
    (h : level.IsOutside r.config.levelNames.length) :
    r.levelName level
      = if r.config.strictLevels then
          .error (.levelOutside level r.config.levelNames.length)
        else .ok r.config.unknownLevelName := by
  have hnone : (if 0 ≤ level.toInt then
      r.config.levelNames[level.toInt.toNat]? else none) = none := by
    split
    · refine List.getElem?_eq_none ?_
      unfold Ordinal.IsOutside at h
      omega
    · rfl
  unfold levelName
  simp only [hnone]

/-- Only strict renderers have a level without a name, and only outside
the table. -/
theorem levelName_eq_error_iff {level : Ordinal} :
    r.levelName level = .error why
      ↔ r.config.strictLevels = true
        ∧ level.IsOutside r.config.levelNames.length
        ∧ why = .levelOutside level r.config.levelNames.length := by
  by_cases h : level.IsOutside r.config.levelNames.length
  · rw [levelName_of_isOutside h]
    split
    · next hstrict =>
      constructor
      · intro heq
        cases heq
        exact ⟨hstrict, h, rfl⟩
      · rintro ⟨-, -, rfl⟩
        rfl
    · next hstrict =>
      constructor
      · intro heq
        cases heq
      · intro hall
        exact absurd hall.1 hstrict
  · obtain ⟨name, -, hname⟩ := levelName_of_not_isOutside h
    rw [hname]
    constructor
    · intro heq
      cases heq
    · intro hall
      exact absurd hall.2.1 h

/-- Joining finds no fault but in a logger name. -/
theorem exists_of_joinShown_eq_error {values : List Value} :
    ∀ {index : Nat}, joinShown index values = .error why →
      ∃ place kind, why = .loggerNotText place kind := by
  induction values with
  | nil =>
      intro index h
      cases h
  | cons value values ih =>
      intro index h
      cases value with
      | text t =>
          rw [joinShown] at h
          rcases bind_eq_error_iff.1 h with h | ⟨after, -, h⟩
          · exact ih h
          · cases h
      | _ =>
          cases h
          exact ⟨_, _, rfl⟩

/-- A level that a rendering complains of is the event's, whatever its
logger name and the pieces are. -/
theorem levelName_of_render_eq_error {template : Template} {level : Ordinal}
    {size : Nat}
    (h : r.render event template = .error (.levelOutside level size)) :
    r.levelName event.level = .error (.levelOutside level size) := by
  rcases bind_eq_error_iff.1 h with h | ⟨shown, -, h⟩
  · obtain ⟨⟨kind, payload⟩, -, hpiece⟩ := exists_of_mapM_eq_error h
    cases kind with
    | level =>
        change (r.levelName event.level).map Value.text = _ at hpiece
        cases hlevel : r.levelName event.level with
        | ok name =>
            rw [hlevel] at hpiece
            cases hpiece
        | error found =>
            rw [hlevel] at hpiece
            cases hpiece
            rfl
    | _ => cases hpiece
  · obtain ⟨place, kind, heq⟩ := exists_of_joinShown_eq_error h
    cases heq

/-- Renderers of one style show a piece alike, if the level that it may
ask for has the same name in both. -/
theorem showPiece_congr {r r' : Renderer} (hstyle : r'.style = r.style)
    {level : Ordinal} {piece : Piece}
    (hlevel : piece.kind = .level →
      r'.levelName level = r.levelName event.level) :
    r'.showPiece { event with level := level } piece
      = r.showPiece event piece := by
  obtain ⟨kind, payload⟩ := piece
  cases kind with
  | timestamp =>
      show Except.ok (Value.text (r'.style.format event.timestamp payload))
        = _
      rw [hstyle]
      rfl
  | level =>
      show (r'.levelName level).map Value.text = _
      rw [hlevel rfl]
      rfl
  | _ => rfl

/-- Renderers of one style that name the level of an event alike render
the event alike. -/
theorem render_congr {r r' : Renderer} (hstyle : r'.style = r.style)
    (hlevel : r'.levelName event.level = r.levelName event.level)
    (template : Template) :
    r'.render event template = r.render event template := by
  have hshown : r'.showPiece event = r.showPiece event :=
    funext fun _ => showPiece_congr hstyle fun _ => hlevel
  unfold render
  rw [hshown]

/-- Of the pieces that compiling gives, only one for the level can fail. -/
theorem showText_eq_error_iff {piece : Piece} (h : piece.WellFormed) :
    r.showText event piece = .error why
      ↔ piece.kind = .level ∧ r.levelName event.level = .error why := by
  obtain ⟨kind, payload⟩ := piece
  cases kind with
  | level => exact ⟨fun heq => ⟨rfl, heq⟩, fun heq => heq.2⟩
  | other name => exact h.elim
  | _ =>
      constructor
      · intro heq
        cases heq
      · intro heq
        cases heq.1

/-- Whatever error a compiled layout fails with is that of its level. -/
theorem exists_level_of_render_eq_error {layout name : Text}
    {template : Template} (hlayout : compile layout = .ok template)
    (hname : event.loggerName = .text name)
    (h : r.render event template = .error why) :
    (∃ piece ∈ template.pieces, piece.kind = .level)
      ∧ r.levelName event.level = .error why := by
  have hpieces := (normalForm_of_compile hlayout).1
  rw [r.render_eq_concatM event hname] at h
  obtain ⟨piece, hmem, hpiece⟩ := exists_of_concatM_eq_error h
  obtain ⟨hkind, hlevel⟩ :=
    (showText_eq_error_iff (hpieces piece hmem)).1 hpiece
  exact ⟨⟨piece, hmem, hkind⟩, hlevel⟩

/-- A compiled layout fails on an event with a text for a logger name
exactly where it asks for a level that is outside and must not be. -/
theorem fails_iff {layout name : Text} {template : Template}
    (hlayout : compile layout = .ok template)
    (hname : event.loggerName = .text name) :
    r.render event template = .error why
      ↔ r.config.strictLevels = true
        ∧ event.level.IsOutside r.config.levelNames.length
        ∧ (∃ piece ∈ template.pieces, piece.kind = .level)
        ∧ why = .levelOutside event.level r.config.levelNames.length := by
  constructor
  · intro h
    obtain ⟨hpiece, hlevel⟩ :=
      exists_level_of_render_eq_error hlayout hname h
    obtain ⟨hstrict, hout, hwhy⟩ := levelName_eq_error_iff.1 hlevel
    exact ⟨hstrict, hout, hpiece, hwhy⟩
  · rintro ⟨hstrict, hout, ⟨piece, hmem, hkind⟩, hwhy⟩
    have hlevel := levelName_eq_error_iff.2 ⟨hstrict, hout, hwhy⟩
    have hpieces := (normalForm_of_compile hlayout).1
    have hpiece :=
      (showText_eq_error_iff (hpieces piece hmem)).2 ⟨hkind, hlevel⟩
    obtain ⟨found, hfound⟩ := exists_concatM_eq_error hmem hpiece
    rw [← r.render_eq_concatM event hname] at hfound
    -- Some piece fails, and then the error found is the level's.
    have hsame :=
      (exists_level_of_render_eq_error hlayout hname hfound).2
    rw [hlevel] at hsame
    rw [hfound, Except.error.inj hsame]

/-- In short, it fails only for its level, and not when levels outside the
table are allowed. -/
theorem of_render_eq_error {layout name : Text} {template : Template}
    (hlayout : compile layout = .ok template)
    (hname : event.loggerName = .text name)
    (h : r.render event template = .error why) :
    r.config.strictLevels = true
      ∧ why = .levelOutside event.level r.config.levelNames.length := by
  obtain ⟨hstrict, -, -, hwhy⟩ := (fails_iff hlayout hname).1 h
  exact ⟨hstrict, hwhy⟩

theorem exists_line {layout name : Text} {template : Template}
    (hlayout : compile layout = .ok template)
    (hname : event.loggerName = .text name)
    (h : r.config.strictLevels = true →
      event.level.IsOutside r.config.levelNames.length →
        ∀ piece ∈ template.pieces, piece.kind ≠ .level) :
    ∃ line, r.render event template = .ok line := by
  cases hline : r.render event template with
  | ok line => exact ⟨line, rfl⟩
  | error why =>
      obtain ⟨hstrict, hout, ⟨piece, hmem, hkind⟩, -⟩ :=
        (fails_iff hlayout hname).1 hline
      exact absurd hkind (h hstrict hout piece hmem)

/-- Two renderers of one table and one style show a piece alike, unless
it asks for a level outside the table. -/
theorem showText_congr {r r' : Renderer} {piece : Piece}
    (hnames : r'.config.levelNames = r.config.levelNames)
    (hstyle : r'.style = r.style)
    (h : piece.kind = .level →
      ¬ event.level.IsOutside r.config.levelNames.length) :
    r'.showText event piece = r.showText event piece := by
  obtain ⟨kind, payload⟩ := piece
  cases kind with
  | timestamp =>
      show Except.ok (r'.style.format event.timestamp payload) = _
      rw [hstyle]
      rfl
  | level =>
      have hinside := h rfl
      obtain ⟨name, hentry, hname⟩ := levelName_of_not_isOutside hinside
      rw [← hnames] at hinside hentry
      obtain ⟨name', hentry', hname'⟩ := levelName_of_not_isOutside hinside
      rw [hentry] at hentry'
      cases hentry'
      show r'.levelName event.level = r.levelName event.level
      rw [hname, hname']
  | _ => rfl

/-- A line of a strict renderer is the line of every renderer with its
table and its style. -/
theorem render_of_strict {r r' : Renderer} {layout name line : Text}
    {template : Template} (hlayout : compile layout = .ok template)
    (hname : event.loggerName = .text name)
    (hstrict : r.config.strictLevels = true)
    (hnames : r'.config.levelNames = r.config.levelNames)
    (hstyle : r'.style = r.style)
    (h : r.render event template = .ok line) :
    r'.render event template = .ok line := by
  have hlevel : ∀ piece ∈ template.pieces, piece.kind = .level →
      ¬ event.level.IsOutside r.config.levelNames.length := by
    intro piece hpiece hkind hout
    have hfails := (fails_iff hlayout hname).2
      ⟨hstrict, hout, ⟨piece, hpiece, hkind⟩, rfl⟩
    rw [hfails] at h
    cases h
  rw [← h, r.render_eq_concatM event hname, r'.render_eq_concatM event hname]
  exact concatM_congr fun piece hpiece =>
    showText_congr hnames hstyle (hlevel piece hpiece)

end Renderer

-- ================================================== the only failure

/-- A layout's template is shown of every event with a text for a logger
name, unless the configuration is strict and the level is shown and
outside the table; the error is then that one. A line that comes about
under a strict configuration comes about under any other way with levels
outside the table. And every word that a split pattern has for a token is
found again when the date is written. -/
theorem render_eq_error_iff {config : Config} {style : DateStyle}
    (hstyle : DateStyle.ofName? config.dateStyle = some style) :
    ∃ r, Renderer.ofConfig config = .ok r
      ∧ (∀ layout template event name,
          compile layout = .ok template → event.loggerName = .text name →
          (∀ why, r.render event template = .error why
            ↔ config.strictLevels = true
              ∧ event.level.IsOutside config.levelNames.length
              ∧ (∃ piece ∈ template.pieces, piece.kind = .level)
              ∧ why = .levelOutside event.level config.levelNames.length)
          ∧ (config.strictLevels = true → ∀ line,
            r.render event template = .ok line → ∀ strict unknown,
              ∃ r', Renderer.ofConfig { config with
                  strictLevels := strict, unknownLevelName := unknown }
                    = .ok r'
                ∧ r'.render event template = .ok line))
      ∧ ∀ t pattern,
          concatM (Part.show? t) ((split pattern).map Chunk.part)
            = some (formatReference t pattern) := by
  refine ⟨⟨config, style, hstyle⟩, Renderer.ofConfig_of_ofName? hstyle, ?_,
    concatM_show?⟩
  intro layout template event name hcompile hname
  refine ⟨fun why => Renderer.fails_iff hcompile hname, ?_⟩
  intro hstrict line hline strict unknown
  have hknown : DateStyle.ofName? { config with
      strictLevels := strict, unknownLevelName := unknown }.dateStyle
        = some style := hstyle
  refine ⟨_, Renderer.ofConfig_of_ofName? hknown, ?_⟩
  exact Renderer.render_of_strict (r := ⟨config, style, hstyle⟩)
    hcompile hname hstrict rfl rfl hline

/-- With one name for levels and strictness, the level one fails where it
is shown, and the level zero is shown as it is by lenient renderers. -/
theorem render_eq_error_iff_one_name :
    ∃ r, Renderer.ofConfig ⟨["A"], "reference", "UNKNOWN", true⟩ = .ok r
      ∧ r.render ⟨.text [], ⟨.mk 2025 12 30, .midnight, none⟩, .number 1,
          .null⟩ ⟨[⟨.timestamp, ['6']⟩, ⟨.level, []⟩], "%d\x7b6\x7d%p"⟩
        = .error (.levelOutside (.number 1) 1)
      ∧ ∃ r', Renderer.ofConfig ⟨["A"], "reference", "?", false⟩ = .ok r'
        ∧ r'.render ⟨.text [], ⟨.mk 2025 12 30, .midnight, none⟩, .number 0,
            .null⟩ ⟨[⟨.timestamp, ['6']⟩, ⟨.level, []⟩], "%d\x7b6\x7d%p"⟩
        = .ok "6A" := by
  have hcompile : compile "%d\x7b6\x7d%p"
      = .ok ⟨[⟨.timestamp, ['6']⟩, ⟨.level, []⟩], "%d\x7b6\x7d%p"⟩ := rfl
  obtain ⟨r, hr, hrender, -⟩ :=
    @render_eq_error_iff ⟨["A"], "reference", "UNKNOWN", true⟩ .reference
      (by decide)
  refine ⟨r, hr, ?_, ?_⟩
  · have hout : (Ordinal.number 1).IsOutside 1 := Or.inr (by decide)
    have hlevel : ∃ piece ∈ [Piece.mk .timestamp ['6'], ⟨.level, []⟩],
        piece.kind = .level := ⟨⟨.level, []⟩, by decide, rfl⟩
    exact ((hrender _ _ _ [] hcompile rfl).1 _).2 ⟨rfl, hout, hlevel, rfl⟩
  · refine (hrender _ _ _ [] hcompile rfl).2 rfl _ ?_ false "?"
    cases hr
    decide +kernel

end Logline
