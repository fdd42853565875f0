/-
Resolving a level. A text that asks for a level is a numeral or a name,
and it is never both: what is a numeral is not looked up. `Resolves` says
what comes of each, without saying how it is found, and exactly one of its
cases holds of any text (`resolveLevel_eq_iff`).

Blanks around the text and the case of its letters do not count. Trimming
takes the blanks away, a numeral has no letters, and names are compared in
upper case (`toOption_resolveLevel_congr`).

In a request the level is looked at in one place, so requests whose levels
are resolved alike are answered alike (`line_congr_level`). And a place
that is found by name lies in the table: the line shows the name for every
placeholder of the level, whatever is said of levels outside
(`line_eq_named`).
-/
import Mathlib.Order.Bounds.Defs
import Logline.Proofs.Strictness
import Logline.Proofs.Tool.Levels

namespace Logline

open Calendar Layout Number

-- ==================================================== what texts ask for

/-- The ordinal that a text asks for, or why there is none. A numeral asks
for its value, unless it is too long, and every other text for the least
place whose name is the same in upper case. -/
inductive Resolves (names : List Text) (asked : Text) :
    Except LevelError Int → Prop where
  | numeral {negative : Bool} {digits : Text}
      (h : IsNumeral (Text.trim asked) negative digits)
      (hsize : digits.length ≤ maxNumeral) :
      Resolves names asked (.ok
        (if negative then -(Text.toNat digits : Int) else Text.toNat digits))
  | tooLong {negative : Bool} {digits : Text}
      (h : IsNumeral (Text.trim asked) negative digits)
      (hsize : maxNumeral < digits.length) :
      Resolves names asked (.error (.tooManyDigits digits.length))
  | name {place : Nat}
      (h : ∀ negative digits, ¬ IsNumeral (Text.trim asked) negative digits)
      (hplace : IsLeast {place : Nat | (names[place]?).map Text.upper
        = some (Text.upper (Text.trim asked))} place) :
      Resolves names asked (.ok place)
  | unknown
      (h : ∀ negative digits, ¬ IsNumeral (Text.trim asked) negative digits)
      (hnone : ∀ name ∈ names,
        Text.upper name ≠ Text.upper (Text.trim asked)) :
      Resolves names asked (.error (.unknownName asked names))

section Resolving

variable {names : List Text} {asked : Text}

/-- A level is found by name in the least place that has the name in
upper case. -/
theorem findLevel?_eq_some_iff {name : Text} {place : Nat} :
    findLevel? names name = some place
      ↔ IsLeast {place : Nat | (names[place]?).map Text.upper
        = some (Text.upper name)} place := by
  unfold findLevel?
  rw [List.findIdx?_eq_some_iff_getElem]
  constructor
  · rintro ⟨hlt, hsame, hbefore⟩
    refine ⟨?_, fun other hother => Nat.le_of_not_lt fun hless => ?_⟩
    · show (names[place]?).map Text.upper = _
      rw [List.getElem?_eq_getElem hlt, Option.map_some,
        of_decide_eq_true hsame]
    · change (names[other]?).map Text.upper = _ at hother
      rw [List.getElem?_eq_getElem (hless.trans hlt), Option.map_some,
        Option.some.injEq] at hother
      exact hbefore other hless (decide_eq_true hother)
  · rintro ⟨hplace, hleast⟩
    obtain ⟨name', hget, hsame⟩ := Option.map_eq_some_iff.1 hplace
    obtain ⟨hlt, rfl⟩ := List.getElem?_eq_some_iff.1 hget
    refine ⟨hlt, decide_eq_true hsame, fun other hless heq => ?_⟩
    have hother : (names[other]?).map Text.upper = some (Text.upper name) := by
      rw [List.getElem?_eq_getElem (hless.trans hlt), Option.map_some,
        of_decide_eq_true heq]
    exact absurd (hleast hother) (Nat.not_le.2 hless)

theorem findLevel?_eq_none_iff {name : Text} :
    findLevel? names name = none
      ↔ ∀ known ∈ names, Text.upper known ≠ Text.upper name := by
  unfold findLevel?
  simp only [List.findIdx?_eq_none_iff, decide_eq_false_iff_not, ne_eq]

/-- Whatever holds of a text, resolving it comes to that. -/
theorem Resolves.resolveLevel_eq {outcome : Except LevelError Int}
    (h : Resolves names asked outcome) :
    resolveLevel names asked = outcome := by
  unfold resolveLevel
  cases h with
  | numeral h hsize =>
      simp only [numeral?_eq_some_iff.2 h, ofNumeral,
        if_neg (Nat.not_lt.2 hsize)]
      rfl
  | tooLong h hsize =>
      simp only [numeral?_eq_some_iff.2 h, ofNumeral, if_pos hsize]
      rfl
  | name h hplace =>
      simp only [numeral?_eq_none_iff.2 h, findLevel?_eq_some_iff.2 hplace]
  | unknown h hnone =>
      simp only [numeral?_eq_none_iff.2 h, findLevel?_eq_none_iff.2 hnone]

/-- Some case holds of every text. -/
theorem exists_resolves (names : List Text) (asked : Text) :
    ∃ outcome, Resolves names asked outcome := by
  cases hnumeral : numeral? (Text.trim asked) with
  | some found =>
      have h := numeral?_eq_some_iff.1 hnumeral
      rcases Nat.lt_or_ge maxNumeral found.2.length with hsize | hsize
      · exact ⟨_, .tooLong h hsize⟩
      · exact ⟨_, .numeral h hsize⟩
  | none =>
      have h := numeral?_eq_none_iff.1 hnumeral
      cases hfind : findLevel? names (Text.trim asked) with
      | some place => exact ⟨_, .name h (findLevel?_eq_some_iff.1 hfind)⟩
      | none => exact ⟨_, .unknown h (findLevel?_eq_none_iff.1 hfind)⟩

theorem resolveLevel_eq_iff {outcome : Except LevelError Int} :
    resolveLevel names asked = outcome ↔ Resolves names asked outcome := by
  constructor
  · rintro rfl
    obtain ⟨outcome, h⟩ := exists_resolves names asked
    rw [h.resolveLevel_eq]
    exact h
  · exact Resolves.resolveLevel_eq

/-- Blanks around a text and the case of its letters matter to no more
than the wording of an error. -/
theorem toOption_resolveLevel_congr (names : List Text)
    {before asked asked' after : Text}
    (hbefore : ∀ c ∈ before, Text.isBlank c = true)
    (hcase : asked'.map Char.toLower = asked.map Char.toLower)
    (hafter : ∀ c ∈ after, Text.isBlank c = true) :
    (resolveLevel names (before ++ asked' ++ after)).toOption
      = (resolveLevel names asked).toOption := by
  have htrim : (Text.trim asked').map Char.toLower
      = (Text.trim asked).map Char.toLower := by
    rw [← Text.trim_map_toLower, hcase, Text.trim_map_toLower]
  have hnumeral := numeral?_congr htrim
  have hfind : findLevel? names (Text.trim asked')
      = findLevel? names (Text.trim asked) := by
    unfold findLevel?
    rw [Text.upper_eq_of_toLower_eq htrim]
  unfold resolveLevel
  simp only [Text.trim_between hbefore hafter, hnumeral, hfind]
  cases numeral? (Text.trim asked) with
  | some found => rfl
  | none => cases findLevel? names (Text.trim asked) <;> rfl

end Resolving

-- ====================================================== levels by name

/-- The template with a text in place of the level. -/
def Layout.Template.named (template : Template) (name : Text) : Template :=
  { template with
    pieces := template.pieces.map fun piece =>
      if piece.kind = .level then ⟨.text, name⟩ else piece }

/-- Where the level has a name, the name can stand in its place, and then
no level is asked for any more. -/
theorem Renderer.render_named {r r' : Renderer} {event : Event} {name : Text}
    (hlevel : r.levelName event.level = .ok name) (hstyle : r'.style = r.style)
    (level : Ordinal) (template : Template) :
    r'.render { event with level := level } (template.named name)
      = r.render event template := by
  have hshown : (r'.showPiece { event with level := level } ∘ fun piece =>
      if piece.kind = .level then ⟨.text, name⟩ else piece)
        = r.showPiece event := by
    funext piece
    by_cases hkind : piece.kind = .level
    · obtain ⟨kind, payload⟩ := piece
      cases hkind
      show Except.ok (Value.text name)
        = (r.levelName event.level).map Value.text
      rw [hlevel]
      rfl
    · rw [Function.comp_apply, if_neg hkind]
      exact showPiece_congr hstyle fun h => absurd h hkind
  unfold render Template.named
  rw [List.mapM_map, hshown]

-- ==================================================== levels of requests

namespace RenderRequest

variable {r : RenderRequest} {now : Timestamp} {env : Environment}
  {config : Config}

/-- A value that asks for a level puts it into the checked event, and does
nothing more. -/
theorem check_withLevel (r : RenderRequest) {level : Value}
    {asked : LevelAsked} (h : LevelAsked.ofValue level = .ok asked) :
    (r.withLevel level).event.check
      = (r.withLevel (.int 0)).event.check.map
        fun checked => { checked with level := asked } := by
  have hlevel : EventRequest.checkLevel level = .ok asked := by
    rw [EventRequest.checkLevel, h]
    rfl
  have hzero : EventRequest.checkLevel (.int 0) = .ok (.ordinal 0) := rfl
  unfold EventRequest.check withLevel
  simp only [hlevel, hzero]
  cases EventRequest.checkText .loggerNameNotText r.event.loggerName with
  | error found => rfl
  | ok loggerName =>
      cases EventRequest.checkText .messageNotText r.event.message with
      | error found => rfl
      | ok message =>
          cases EventRequest.checkMoment r.event.timestamp <;> rfl

/-- Levels that are resolved alike, in every table, get the same answer. -/
theorem line_congr_level (r : RenderRequest) {level level' : Value}
    {asked asked' : LevelAsked} (hlevel : LevelAsked.ofValue level = .ok asked)
    (hlevel' : LevelAsked.ofValue level' = .ok asked')
    (h : ∀ names, asked.resolve names = asked'.resolve names) :
    (r.withLevel level).line now env config
      = (r.withLevel level').line now env config := by
  have hevent : ∀ names (checked : CheckedEvent),
      eventOf now names { checked with level := asked }
        = eventOf now names { checked with level := asked' } := by
    intro names checked
    simp only [eventOf, h]
  have hstyled : ∀ c, (r.withLevel level).styled c
      = (r.withLevel level').styled c := fun _ => rfl
  unfold RenderRequest.line
  simp only [r.check_withLevel hlevel, r.check_withLevel hlevel', hstyled]
  refine bind_congr fun resolved => bind_congr fun styled => ?_
  cases (r.withLevel (.int 0)).event.check with
  | error found => rfl
  | ok checked =>
      show (compileTool r.layout >>= _) = (compileTool r.layout >>= _)
      refine bind_congr fun template => ?_
      rw [hevent]

/-- An ordinal and its numeral get the same answer. -/
theorem line_int_eq_line_ofInt (r : RenderRequest) {n : Int}
    (h : (Text.ofNat n.natAbs).length ≤ maxNumeral) :
    (r.withLevel (.int n)).line now env config
      = (r.withLevel (.text (Text.ofInt n))).line now env config :=
  r.line_congr_level rfl rfl fun names => (resolveLevel_ofInt names h).symm

namespace ComesTo

variable {renderer : Renderer} {template : Template} {event : Event}
  (h : r.ComesTo now env config renderer template event)
include h

/-- The line for a level in the table shows its name for the level, and
nothing of it depends on what is said of levels outside. -/
theorem line_eq_named {level : Value} {asked : LevelAsked} {place : Nat}
    {name : Text} (hlevel : LevelAsked.ofValue level = .ok asked)
    (hplace : asked.resolve config.levelNames = .ok (place : Int))
    (hname : config.levelNames[place]? = some name) :
    ∃ line, (r.withLevel level).line now env config = .ok line
      ∧ ∀ (renderer' : Renderer) (level' : Ordinal),
        renderer'.style = renderer.style →
          renderer'.render { event with level := level' }
            (template.named name) = .ok line := by
  rw [← h.levelNames_eq] at hplace hname
  obtain ⟨logger, -, hlogger⟩ := h.loggerName
  have hlogger : { event with level := .number place }.loggerName
      = .text logger := hlogger
  have hinside : ¬ (Ordinal.number place).IsOutside
      renderer.config.levelNames.length := by
    have hlt := (List.getElem?_eq_some_iff.1 hname).1
    unfold Ordinal.IsOutside
    show ¬ ((place : Int) < 0 ∨ _ ≤ (place : Int))
    omega
  obtain ⟨found, hentry, hfound⟩ :=
    Renderer.levelName_of_not_isOutside hinside
  have hsame : found = name := Option.some.inj (hentry.symm.trans hname)
  rw [hsame] at hfound
  obtain ⟨line, hline⟩ := Renderer.exists_line h.compiled hlogger
    fun _ hout => absurd hout hinside
  refine ⟨line, ?_, fun renderer' level' hstyle => ?_⟩
  · rw [h.line_eq hlevel hplace, hline]
    rfl
  · rw [← hline]
    exact @Renderer.render_named _ _ { event with level := .number place } _
      hfound hstyle level' template

end ComesTo

end RenderRequest

-- ============================================================ in short

/-- What a text asks for as a level, in every table. It is exactly what
`Resolves` says, and does not depend on blanks around the text nor on the
case of its letters. In every request an ordinal and its numeral get the
same answer. And in a request that is right but for its level, a text that
is no numeral and has a place in the table gets a line: that of the
template with the name of the place put in for the level, which is the
same whatever is said of levels outside the table. -/
theorem resolveLevel_exact (names : List Text) (asked : Text) :
    (∀ outcome, resolveLevel names asked = outcome
        ↔ Resolves names asked outcome)
      ∧ (∀ before asked' after : Text,
        (∀ c ∈ before, Text.isBlank c = true) →
        asked'.map Char.toLower = asked.map Char.toLower →
        (∀ c ∈ after, Text.isBlank c = true) →
        (resolveLevel names (before ++ asked' ++ after)).toOption
          = (resolveLevel names asked).toOption)
      ∧ ∀ (r : RenderRequest) (now : Timestamp) (env : Environment)
        (config : Config),
        (∀ n : Int, (Text.ofNat n.natAbs).length ≤ maxNumeral →
          (r.withLevel (.int n)).line now env config
            = (r.withLevel (.text (Text.ofInt n))).line now env config)
        ∧ ∀ renderer template event,
          r.ComesTo now env config renderer template event →
          config.levelNames = names →
          (∀ negative digits,
            ¬ IsNumeral (Text.trim asked) negative digits) →
          ∀ n, resolveLevel names asked = .ok n →
          ∃ (place : Nat) (name line : Text), n = place
            ∧ names[place]? = some name
            ∧ (r.withLevel (.text asked)).line now env config = .ok line
            ∧ ∀ (renderer' : Renderer) (level : Ordinal),
              renderer'.style = renderer.style →
                renderer'.render { event with level := level }
                  (template.named name) = .ok line := by
  refine ⟨fun outcome => resolveLevel_eq_iff, fun before asked' after =>
    toOption_resolveLevel_congr names, fun r now env config =>
      ⟨fun n => r.line_int_eq_line_ofInt, ?_⟩⟩
  rintro renderer template event h rfl hnumeral n hresolved
  cases resolveLevel_eq_iff.1 hresolved with
  | numeral hnumber => exact absurd hnumber (hnumeral _ _)
  | name _ hplace =>
      obtain ⟨name, hname, -⟩ := Option.map_eq_some_iff.1 hplace.1
      have hasked : LevelAsked.ofValue (.text asked) = .ok (.name asked) := rfl
      obtain ⟨line, hline, hshown⟩ := h.line_eq_named hasked hresolved hname
      exact ⟨_, name, line, rfl, hname, hline, hshown⟩

/-- A name of one letter is found by two, before another name of two, and
stands in the line also where levels outside the table are an error. -/
theorem resolveLevel_exact_sharp_s :
    let config : Config :=
      { levelNames := ["\u00df", "SS"], strictLevels := true }
    let r : RenderRequest := ⟨"%p: %m",
      ⟨.text "root", .null, .text "boot", .text "2025-12-30"⟩, .null⟩
    let now := Timestamp.first
    Resolves config.levelNames "ss" (.ok 0)
      ∧ (resolveLevel config.levelNames "\tsS ").toOption = some 0
      ∧ (r.withLevel (.text "ss")).line now .empty config
        = .ok "\u00df: boot"
      ∧ (r.withLevel (.int (-1))).line now .empty config
        = (r.withLevel (.text "-1")).line now .empty config := by
  intro config r now
  have hfound : resolveLevel config.levelNames "ss" = .ok 0 := by
    decide +kernel
  obtain ⟨hexact, hblanks, hrequests⟩ :=
    resolveLevel_exact config.levelNames "ss"
  have hcase := hblanks "\t" "sS" " " (List.all_eq_true.1 (by decide))
    (by decide) (List.all_eq_true.1 (by decide))
  obtain ⟨hnumerals, hnames⟩ := hrequests r now .empty config
  have hcomes : r.ComesTo now .empty config ⟨config, .directives, rfl⟩
      ⟨[⟨.level, []⟩, ⟨.text, ": "⟩, ⟨.message, []⟩], "%p: %m"⟩
      ⟨.text "root", ⟨.mk 2025 12 30, .midnight, some Zone.utc⟩,
        .number 0, .text "boot"⟩ :=
    { configured := ⟨config, rfl, rfl⟩
      compiled := by decide +kernel
      loggerName := ⟨"root", rfl, rfl⟩
      message := ⟨"boot", rfl, rfl⟩
      timestamp := ⟨some ⟨.mk 2025 12 30, .midnight, none⟩,
        by decide +kernel, rfl⟩ }
  have hword : ∀ negative digits,
      ¬ IsNumeral (Text.trim "ss") negative digits :=
    numeral?_eq_none_iff.1 (by decide +kernel)
  obtain ⟨place, name, line, hplace, hname, hline, hshown⟩ :=
    hnames _ _ _ hcomes rfl hword 0 hfound
  cases Int.natCast_eq_zero.1 hplace.symm
  cases hname
  have hvalue := hshown ⟨config, .directives, rfl⟩ (.number 0) rfl
  have hsame : (Except.ok line : Except RenderError Text)
      = .ok "\u00df: boot" := hvalue.symm.trans (by rfl)
  cases hsame
  exact ⟨(hexact _).1 hfound, hcase.trans (by rw [hfound]; rfl), hline,
    hnumerals (-1) (by decide)⟩

end Logline
