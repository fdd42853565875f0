/-
The table of levels and what the render tool does. A client can read the
table of levels in effect before it asks for a line, and it takes the
table for a promise. These are two ways through the program: the table is
written from the configuration, while the tool reads the level of an
event, looks its place up and lets the renderer decide about the places
outside.

They keep the promise because they resolve the environment in the same
way, which keeps the names (`levelNames_of_resolve`). The table that a
client reads is the names by their places, so an ordinal is looked up in
it as the renderer looks it up (`lineFor_eq_levelName`). And the names are
words, no two of them the same in upper case, so that each is found under
its own place in whatever case it is written (`resolveLevel_name`).
-/
import Mathlib.Data.Int.Order.Basic
import Mathlib.Data.List.Nodup
import Logline.Proofs.Environment
import Logline.Proofs.Rendering
import Logline.Proofs.Text.Case
import Logline.Proofs.Tool.Line
import Logline.Resource

namespace Logline

open Calendar Layout

-- =========================================================== the table

/-- A table of levels as a client takes it: the names by ordinal, and what
becomes of other ordinals. -/
structure LevelTable where
  levels : List (Int × Text)
  unknownLevelName : Text
  strictLevels : Bool

namespace LevelTable

/-- The level that an entry tells, its ordinal and its name. -/
def readEntry? (entry : Value) : Option (Int × Text) :=
  match entry.get? "ordinal", entry.get? "name" with
  | some (.int ordinal), some (.text name) => some (ordinal, name)
  | _, _ => none

/-- Reads a table of levels. -/
def read? (v : Value) : Option LevelTable :=
  match v.get? "levels", v.get? "unknown_level_name",
    v.get? "strict_levels" with
  | some (.list entries), some (.text unknown), some (.bool strict) =>
    (entries.mapM readEntry?).map (⟨·, unknown, strict⟩)
  | _, _, _ => none

/-- What a table promises for an ordinal: the name that it lists, and
otherwise the name for unknown levels or, if the table is strict, an
error. -/
def lineFor (table : LevelTable) (n : Int) : Except ToolError Text :=
  match table.levels.lookup n with
  | some name => .ok name
  | none =>
    if table.strictLevels then
      .error (.badLine (.levelOutside (.number n) table.levels.length))
    else .ok table.unknownLevelName

/-- The table of a configuration. -/
def ofConfig (config : Config) : LevelTable where
  levels := config.levelNames.zipIdx.map fun (name, place) =>
    ((place : Int), name)
  unknownLevelName := config.unknownLevelName
  strictLevels := config.strictLevels

/-- The table that is written for a configuration is read as the table of
the configuration. -/
theorem read?_levelTable (config : Config) :
    read? (Resource.levelTable config) = some (ofConfig config) := by
  have hentries : ∀ places : List (Text × Nat),
      (places.map fun (name, ordinal) => Value.object
          [("ordinal", .int ordinal), ("name", .text name)]).mapM readEntry?
        = some (places.map fun (name, place) => ((place : Int), name)) := by
    intro places
    induction places with
    | nil => rfl
    | cons entry rest ih =>
        rw [List.map_cons, List.mapM_cons, ih]
        rfl
  show (List.mapM readEntry? _).map _ = _
  rw [hentries]
  rfl

/-- A name is listed for its place. -/
theorem lookup_zipIdx (names : List Text) (first : Nat) (n : Int) :
    ((names.zipIdx first).map fun (name, place) =>
        ((place : Int), name)).lookup n
      = if (first : Int) ≤ n then names[(n - first).toNat]? else none := by
  induction names generalizing first with
  | nil =>
      rw [List.getElem?_nil, ite_self]
      rfl
  | cons name rest ih =>
      rw [List.zipIdx_cons, List.map_cons, List.lookup_cons, ih]
      rcases lt_trichotomy n first with hlt | rfl | hlt
      · rw [beq_false_of_ne (by omega), if_neg (by omega), if_neg (by omega)]
      · rw [beq_self_eq_true, if_pos (Int.le_refl _), Int.sub_self]
        rfl
      · have hplace : (n - first).toNat
            = (n - (first + 1 : Nat)).toNat + 1 := by omega
        rw [beq_false_of_ne (by omega), if_pos (by omega), if_pos (by omega),
          hplace, List.getElem?_cons_succ]

private theorem lookup_levels (config : Config) (n : Int) :
    (ofConfig config).levels.lookup n
      = if 0 ≤ n then config.levelNames[n.toNat]? else none := by
  have h := lookup_zipIdx config.levelNames 0 n
  rw [Int.natCast_zero, Int.sub_zero] at h
  exact h

/-- A listed name has a place in the table, and is what the table promises
for it. -/
theorem place_of_mem {config : Config} {listed : Int × Text}
    (h : listed ∈ (ofConfig config).levels) :
    ∃ place : Nat, config.levelNames[place]? = some listed.2
      ∧ (ofConfig config).lineFor place = .ok listed.2 := by
  obtain ⟨⟨name, place⟩, hmem, rfl⟩ := List.mem_map.1 h
  have hname : config.levelNames[place]? = some name :=
    List.mem_zipIdx_iff_getElem?.1 hmem
  refine ⟨place, hname, ?_⟩
  rw [lineFor, lookup_levels, if_pos (Int.natCast_nonneg place),
    Int.toNat_natCast, hname]

/-- A table promises for an ordinal what a renderer with its names makes
of it. -/
theorem lineFor_eq_levelName {config : Config} {renderer : Renderer}
    (hnames : renderer.config.levelNames = config.levelNames)
    (hunknown : renderer.config.unknownLevelName = config.unknownLevelName)
    (hstrict : renderer.config.strictLevels = config.strictLevels)
    (n : Int) :
    (ofConfig config).lineFor n
      = (renderer.levelName (.number n)).mapError .badLine := by
  have hlength : (ofConfig config).levels.length
      = config.levelNames.length := by
    rw [ofConfig, List.length_map, List.length_zipIdx]
  have hlevel : renderer.levelName (.number n)
      = match (ofConfig config).levels.lookup n with
        | some name => .ok name
        | none =>
          if config.strictLevels then
            .error (.levelOutside (.number n) config.levelNames.length)
          else .ok config.unknownLevelName := by
    rw [lookup_levels, Renderer.levelName, hnames, hunknown, hstrict]
    by_cases hn : 0 ≤ n
    · have hplace : 0 ≤ (Ordinal.number n).toInt := hn
      simp only [if_pos hn, if_pos hplace]
      rfl
    · have hplace : ¬ 0 ≤ (Ordinal.number n).toInt := hn
      simp only [if_neg hn, if_neg hplace]
  rw [lineFor, hlength, hlevel]
  cases (ofConfig config).levels.lookup n with
  | some name => rfl
  | none =>
      show (if config.strictLevels = true then _ else _) = _
      cases config.strictLevels <;> rfl

end LevelTable

-- ====================================================== finding a level

section Finding

variable {names : List Text}

/-- The numeral of an ordinal asks for the ordinal. -/
theorem resolveLevel_ofInt (names : List Text) {n : Int}
    (h : (Text.ofNat n.natAbs).length ≤ Number.maxNumeral) :
    resolveLevel names (Text.ofInt n) = .ok n := by
  have hdigit : ∀ {size : Nat}, ∀ c ∈ Text.ofNat size,
      Text.isBlank c = false := by
    intro size c hc
    have hcode := Text.toNat_of_isDigit (Text.isDigit_of_mem_ofNat hc)
    exact Text.isBlank_of_visible (by omega)
  have hblank : ∀ c ∈ Text.ofInt n, Text.isBlank c = false := by
    cases n with
    | ofNat size => exact hdigit
    | negSucc size =>
        intro c hc
        rcases List.mem_cons.1 hc with rfl | hc
        · decide
        · exact hdigit c hc
  have htrim : Text.trim (Text.ofInt n) = Text.ofInt n := by
    have hnone : ∀ c ∈ ([] : Text), Text.isBlank c = true :=
      fun _ hc => nomatch hc
    have htrim := Text.trim_surrounded hnone hblank hnone
    rwa [List.nil_append, List.append_nil] at htrim
  unfold resolveLevel
  simp only [htrim, numeral?_ofInt]
  have hsize : (if n < 0 then -(n.natAbs : Int) else n.natAbs) = n := by
    split <;> omega
  rw [Number.ofNumeral, if_neg (Nat.not_lt.2 h), Text.toNat_ofNat]
  simp only [decide_eq_true_eq, hsize]
  rfl

/-- Are the names of a table words, no two of them the same in upper
case? -/
structure AreDistinctWords (names : List Text) : Prop where
  words : ∀ name ∈ names, name.IsWord
  distinct : (names.map Text.upper).Nodup

/-- The usual names are words in capitals, no two of them the same. -/
theorem areDistinctWords_default : AreDistinctWords defaultLevelNames := by
  have hword : ∀ s : Severity, s.name.IsWord := by
    intro s
    cases s <;> exact ⟨by decide, List.all_eq_true.1 (by decide)⟩
  have hupper : ∀ s : Severity, Text.upper s.name = s.name := by
    intro s
    cases s <;> rfl
  constructor
  · intro name hname
    obtain ⟨s, -, rfl⟩ := List.mem_map.1 hname
    exact hword s
  · have hnames : defaultLevelNames.map Text.upper = defaultLevelNames := by
      rw [defaultLevelNames, List.map_map]
      exact List.map_congr_left fun s _ => hupper s
    rw [hnames]
    decide

/-- A name in any case and with blanks around it asks for the place of the
name. -/
theorem resolveLevel_name (h : AreDistinctWords names) {place : Nat}
    {name : Text} (hname : names[place]? = some name)
    {before asked after : Text}
    (hbefore : ∀ c ∈ before, Text.isBlank c = true)
    (hcase : asked.map Char.toLower = name.map Char.toLower)
    (hafter : ∀ c ∈ after, Text.isBlank c = true) :
    resolveLevel names (before ++ asked ++ after) = .ok (place : Int) := by
  have hword : asked.IsWord :=
    (h.words name (List.mem_of_getElem? hname)).of_toLower_eq hcase
  have hupper : Text.upper asked = Text.upper name :=
    Text.upper_eq_of_toLower_eq hcase
  have hfind : findLevel? names asked = some place := by
    obtain ⟨hlt, hget⟩ := List.getElem?_eq_some_iff.1 hname
    refine List.findIdx?_eq_some_iff_getElem.2 ⟨hlt, ?_, ?_⟩
    · rw [hget, hupper]
      exact decide_eq_true rfl
    · intro j hj heq
      have hsame : Text.upper names[j] = Text.upper names[place] := by
        rw [hget, ← hupper]
        exact of_decide_eq_true heq
      have hplaces := (List.nodup_iff_getElem?_ne_getElem?.1 h.distinct)
        j place hj (by rwa [List.length_map])
      rw [List.getElem?_map, List.getElem?_map,
        List.getElem?_eq_getElem (by omega), List.getElem?_eq_getElem hlt,
        Option.map_some, Option.map_some, hsame] at hplaces
      exact hplaces rfl
  unfold resolveLevel
  simp only [Text.trim_surrounded hbefore (fun _ hc => hword.isBlank hc)
    hafter, numeral?_of_isWord hword, hfind]

end Finding

namespace RenderRequest

-- ================================================= requests for a level

/-- The request with another level. -/
def withLevel (r : RenderRequest) (level : Value) : RenderRequest :=
  { r with event := { r.event with level := level } }

section Levels

variable {r : RenderRequest} {now : Timestamp} {env : Environment}
  {config : Config}

theorem levelNames_of_styled {styled : Config}
    (h : r.styled config = .ok styled) :
    styled.levelNames = config.levelNames := by
  unfold RenderRequest.styled at h
  split at h
  · cases h
    rfl
  · split at h
    · split at h
      · cases h
        rfl
      · cases h
    · cases h

/-- Is a request right but for its level, and what does it come to: a
renderer, a template, and an event whose level is open? -/
structure ComesTo (r : RenderRequest) (now : Timestamp) (env : Environment)
    (config : Config) (renderer : Renderer) (template : Template)
    (event : Event) : Prop where
  configured : ∃ resolved, config.resolve env = .ok resolved
    ∧ r.styled resolved = .ok renderer.config
  compiled : compile r.layout = .ok template
  loggerName : ∃ t, r.event.loggerName = .text t
    ∧ event.loggerName = .text t
  message : ∃ t, r.event.message = .text t ∧ event.payload = .text t
  timestamp : ∃ moment, momentOfValue r.event.timestamp = .ok moment
    ∧ event.timestamp = (moment.getD now).withDefaultZone Zone.utc

namespace ComesTo

variable {renderer : Renderer} {template : Template} {event : Event}
  (h : r.ComesTo now env config renderer template event)
include h

/-- The answer for a level that is resolved is the renderer's. -/
theorem line_eq {level : Value} {asked : LevelAsked} {n : Int}
    (hlevel : LevelAsked.ofValue level = .ok asked)
    (hplace : asked.resolve renderer.config.levelNames = .ok n) :
    (r.withLevel level).line now env config
      = (renderer.render { event with level := .number n } template).mapError
        .badLine := by
  obtain ⟨resolved, hresolved, hstyled⟩ := h.configured
  obtain ⟨name, hname, hname'⟩ := h.loggerName
  obtain ⟨message, hmessage, hmessage'⟩ := h.message
  obtain ⟨moment, hmoment, hmoment'⟩ := h.timestamp
  have hchecked : (r.withLevel level).event.check
      = .ok ⟨name, asked, message, moment⟩ := by
    simp only [withLevel, EventRequest.check, EventRequest.checkLevel,
      EventRequest.checkMoment, hname, hmessage, hmoment, hlevel]
    rfl
  have hevent : eventOf now renderer.config.levelNames
      ⟨name, asked, message, moment⟩
        = .ok { event with level := .number n } := by
    rw [eventOf, hplace, ← hmoment', ← hname', ← hmessage']
    rfl
  have hstyled : (r.withLevel level).styled resolved = .ok renderer.config :=
    hstyled
  exact line_eq_render hresolved hstyled hchecked h.compiled hevent
    (Renderer.ofConfig_of_ofName? renderer.style_known)

theorem levelNames_eq : renderer.config.levelNames = config.levelNames := by
  obtain ⟨resolved, hresolved, hstyled⟩ := h.configured
  rw [← levelNames_of_resolve hresolved]
  exact levelNames_of_styled hstyled

end ComesTo

end Levels

-- ============================================= requests for a level name

/-- Does a request ask for the name of a level and nothing else, and is it
right but for the level? -/
structure AsksLevel (r : RenderRequest) : Prop where
  layout_eq : r.layout = "%p"
  loggerName : ∃ t, r.event.loggerName = .text t
  message : ∃ t, r.event.message = .text t
  timestamp : ∃ moment, momentOfValue r.event.timestamp = .ok moment
  dateStyle : r.dateStyle.saysAnything = true →
    ∃ asked style, r.dateStyle = .text asked ∧ readStyle? asked = some style

variable {r : RenderRequest} {resolved : Config}

/-- Such a request has a renderer, which takes its levels from the
configuration. -/
theorem AsksLevel.exists_renderer (hr : r.AsksLevel)
    (hstyle : ∃ style, DateStyle.ofName? resolved.dateStyle = some style) :
    ∃ renderer : Renderer, r.styled resolved = .ok renderer.config
      ∧ renderer.config.levelNames = resolved.levelNames
      ∧ renderer.config.unknownLevelName = resolved.unknownLevelName
      ∧ renderer.config.strictLevels = resolved.strictLevels := by
  cases hsays : r.dateStyle.saysAnything with
  | false =>
      obtain ⟨style, hstyle⟩ := hstyle
      refine ⟨⟨resolved, style, hstyle⟩, ?_, rfl, rfl, rfl⟩
      rw [styled, hsays]
      rfl
  | true =>
      obtain ⟨asked, style, hasked, hread⟩ := hr.dateStyle hsays
      have hname := DateStyle.ofName?_name style
      refine ⟨⟨{ resolved with dateStyle := style.name }, style, hname⟩, ?_,
        rfl, rfl, rfl⟩
      rw [styled, hsays, hasked]
      simp only [hread]
      rfl

/-- The line of such a request is what the table of its configuration
promises for the ordinal of its level. -/
theorem AsksLevel.line_eq (hr : r.AsksLevel) {config : Config}
    {env : Environment} (hresolved : config.resolve env = .ok resolved)
    (hstyle : ∃ style, DateStyle.ofName? resolved.dateStyle = some style)
    {level : Value} {asked : LevelAsked} {n : Int}
    (hlevel : LevelAsked.ofValue level = .ok asked)
    (hplace : asked.resolve resolved.levelNames = .ok n) (now : Timestamp) :
    (r.withLevel level).line now env config
      = (LevelTable.ofConfig resolved).lineFor n := by
  obtain ⟨renderer, hstyled, hnames, hunknown, hstrict⟩ :=
    hr.exists_renderer hstyle
  obtain ⟨name, hname⟩ := hr.loggerName
  obtain ⟨message, hmessage⟩ := hr.message
  obtain ⟨moment, hmoment⟩ := hr.timestamp
  have hcomes : r.ComesTo now env config renderer ⟨[⟨.level, []⟩], "%p"⟩
      ⟨.text name, (moment.getD now).withDefaultZone Zone.utc, .number n,
        .text message⟩ :=
    { configured := ⟨resolved, hresolved, hstyled⟩
      compiled := by
        rw [hr.layout_eq]
        rfl
      loggerName := ⟨name, hname, rfl⟩
      message := ⟨message, hmessage, rfl⟩
      timestamp := ⟨moment, hmoment, rfl⟩ }
  rw [← hnames] at hplace
  rw [hcomes.line_eq hlevel hplace, Renderer.render_level,
    LevelTable.lineFor_eq_levelName hnames hunknown hstrict]

end RenderRequest

-- ==================================================== the two agree

/-- The table of levels is what the render tool does, in every
environment. If there is no table, no request is answered but with the
error that keeps it from being read. If there is one, a request for the
name of a level, be the level an integer or the numeral of one, gets what
the table promises for the ordinal: the name that is listed, or else the
name for unknown levels, or an error where the table is strict. And every
listed name gets itself, in any case of its letters and with any blanks
around it. -/
theorem line_eq_levelTable (env : Environment) :
    match Resource.content env .levels with
    | .error why => ∀ (r : RenderRequest) (now : Timestamp),
        r.line now env {} = .error (.environment why)
    | .ok (.text _) => False
    | .ok (.value v) => ∃ table, LevelTable.read? v = some table
        ∧ ∀ (r : RenderRequest) (now : Timestamp), r.AsksLevel →
          (∀ n : Int, (Text.ofNat n.natAbs).length ≤ Number.maxNumeral →
            (r.withLevel (.int n)).line now env {} = table.lineFor n
            ∧ (r.withLevel (.text (Text.ofInt n))).line now env {}
              = table.lineFor n)
          ∧ ∀ listed ∈ table.levels, ∀ before asked after : Text,
            (∀ c ∈ before, Text.isBlank c = true) →
            asked.map Char.toLower = listed.2.map Char.toLower →
            (∀ c ∈ after, Text.isBlank c = true) →
            (r.withLevel (.text (before ++ asked ++ after))).line now env {}
              = .ok listed.2 := by
  unfold Resource.content
  cases hresolved : Config.resolve {} env with
  | error why =>
      intro r now
      unfold RenderRequest.line
      rw [hresolved]
      rfl
  | ok resolved =>
      refine ⟨LevelTable.ofConfig resolved,
        LevelTable.read?_levelTable resolved, fun r now hr => ?_⟩
      have hnames : resolved.levelNames = defaultLevelNames :=
        levelNames_of_resolve hresolved
      have hstyle : ∃ style,
          DateStyle.ofName? resolved.dateStyle = some style :=
        exists_style_of_resolve hresolved
          ⟨_, DateStyle.ofName?_name .directives⟩
      have hnamed : ∀ {t : Text} {n : Int},
          resolveLevel defaultLevelNames t = .ok n →
          (r.withLevel (.text t)).line now env {}
            = (LevelTable.ofConfig resolved).lineFor n := by
        intro t n hplace
        rw [← hnames] at hplace
        have hlevel : LevelAsked.ofValue (.text t) = .ok (.name t) := rfl
        exact hr.line_eq hresolved hstyle hlevel hplace now
      constructor
      · intro n hn
        have hlevel : LevelAsked.ofValue (.int n) = .ok (.ordinal n) := rfl
        exact ⟨hr.line_eq hresolved hstyle hlevel rfl now,
          hnamed (resolveLevel_ofInt defaultLevelNames hn)⟩
      · intro listed hlisted before asked after hbefore hcase hafter
        obtain ⟨place, hname, hpromise⟩ := LevelTable.place_of_mem hlisted
        rw [hnames] at hname
        have hplace := resolveLevel_name areDistinctWords_default hname
          hbefore hcase hafter
        rw [hnamed hplace, hpromise]

/-- An environment in which unknown levels have the name of a listed one:
a level outside of the table gets it, and the others keep their own. -/
theorem line_eq_levelTable_shared_name :
    let env := Environment.empty.set .unknownLevelName (some "INFO")
    let r : RenderRequest :=
      ⟨"%p", ⟨.text "root", .null, .text [], .text "2025-12-30"⟩, .null⟩
    let now := Timestamp.first
    (r.withLevel (.int 7)).line now env {} = .ok "INFO"
      ∧ (r.withLevel (.text "-1")).line now env {} = .ok "INFO"
      ∧ (r.withLevel (.text " wArN\t")).line now env {} = .ok "WARN" := by
  intro env r now
  have h := line_eq_levelTable env
  have hcontent : Resource.content env .levels
      = .ok (.value (Resource.levelTable { unknownLevelName := "INFO" })) :=
    rfl
  rw [hcontent] at h
  obtain ⟨table, htable, h⟩ := h
  rw [LevelTable.read?_levelTable] at htable
  cases htable
  have hr : r.AsksLevel :=
    ⟨rfl, ⟨_, rfl⟩, ⟨_, rfl⟩, ⟨_, rfl⟩, fun hsays => by cases hsays⟩
  obtain ⟨hordinals, hnames⟩ := h r now hr
  have hbelow := (hordinals (-1) (by decide)).2
  have hnumeral : Text.ofInt (-1) = "-1" := by decide
  rw [hnumeral] at hbelow
  refine ⟨(hordinals 7 (by decide)).1, hbelow.trans (by rfl), ?_⟩
  exact hnames (2, "WARN") (by decide) " " "wArN" "\t"
    (List.all_eq_true.1 (by decide)) (by rfl)
    (List.all_eq_true.1 (by decide))

end Logline
