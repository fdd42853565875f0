/-
Lines that sort by time. A layout of one date in the sortable pattern
gives every record the text of its moment, so such lines are in the order
of what they were logged at, and lines of different moments are different
(`sortableText_lt_iff`).

The output for a record goes on below its line where there is a failure
or a stack (`Record.below`). All lines are equally long, so of two outputs
the lines decide first, and what stands below them decides between records
of one moment only.
-/
import Logline.Formatter
import Logline.Proofs.Formatter.Moment
import Logline.Proofs.Rendering

namespace Logline

open Calendar Layout

-- ======================================================= below the line

/-- What stands below the line of a record: the text of its failure, then
that of its stack, each on a line of its own. -/
def Record.below (r : Record) : Text :=
  appendPart (appendPart [] (r.failureText.getD [])) (r.stack.getD [])

/-- An unfinished line can be put in front after a part has been added as
well as before. -/
theorem appendPart_append {line : Text} (hline : '\n' ∉ line)
    (t part : Text) :
    appendPart (line ++ t) part = line ++ appendPart t part := by
  have hlast : (line ++ t).getLast? = some '\n' ↔ t.getLast? = some '\n' := by
    cases t with
    | nil =>
        rw [List.append_nil]
        exact ⟨fun h => absurd (List.mem_of_getLast? h) hline, (nomatch ·)⟩
    | cons c t =>
        rw [List.getLast?_append_of_ne_nil line (List.cons_ne_nil c t)]
  unfold appendPart
  simp only [hlast]
  split
  · rfl
  · split <;> rw [List.append_assoc]

theorem appendPart_appendPart (r : Record) {line : Text}
    (hline : '\n' ∉ line) :
    appendPart (appendPart line (r.failureText.getD [])) (r.stack.getD [])
      = line ++ r.below := by
  have hfirst := appendPart_append hline [] (r.failureText.getD [])
  rw [List.append_nil] at hfirst
  rw [hfirst, appendPart_append hline]
  rfl

-- ==================================================== sortable lines

/-- The layout of one date in the sortable pattern. -/
def sortableLayout : Text := "%d\x7b2006-01-02 15:04:05.000000\x7d"

/-- The formatter of the sortable layout for a configuration with the
reference style. -/
def sortableFormatter (config : Config)
    (hstyle : DateStyle.ofName? config.dateStyle = some .reference) :
    Formatter :=
  ⟨⟨[⟨.timestamp, sortablePattern⟩], sortableLayout⟩,
    ⟨config, .reference, hstyle⟩⟩

section Sortable

variable {config : Config}
  (hstyle : DateStyle.ofName? config.dateStyle = some .reference)

theorem ofLayout_sortableLayout :
    Formatter.ofLayout sortableLayout config
      = .ok (sortableFormatter config hstyle) := by
  have hlayout : compile sortableLayout
      = .ok ⟨[⟨.timestamp, sortablePattern⟩], sortableLayout⟩ := by
    decide +kernel
  unfold Formatter.ofLayout
  rw [hlayout, Renderer.ofConfig_of_ofName? hstyle]
  rfl

/-- An output is the line with its parts, and the text of the failure is
kept in the record. -/
theorem Formatter.format_eq_ok_iff {f : Formatter} {r after : Record}
    {s : Text} :
    f.format r = .ok (s, after)
      ↔ ∃ line kept, f.eventLine r = .ok line
        ∧ r.currentFailureText = .ok kept
        ∧ after = { r with failureText := kept }
        ∧ s = appendPart (appendPart line (kept.getD []))
          (r.stack.getD []) := by
  unfold format
  simp only [bind_eq_ok_iff, mapError_eq_ok_iff]
  constructor
  · rintro ⟨line, hline, kept, hkept, heq⟩
    cases heq
    exact ⟨line, kept, hline, hkept, rfl, rfl⟩
  · rintro ⟨line, kept, hline, hkept, rfl, rfl⟩
    exact ⟨line, hline, kept, hkept, rfl⟩

variable {r : Record} {micros : Int}

/-- The line of a record is the text of its moment, if its message can be
had. -/
theorem eventLine_sortable_eq_ok_iff {line : Text} :
    (sortableFormatter config hstyle).eventLine r = .ok line
      ↔ ∃ t, r.created.moment = .ok t
        ∧ (∃ message, Message.text r.message r.arguments = .ok message)
        ∧ line = sortableText t := by
  simp only [Formatter.eventLine, sortableFormatter, Record.event,
    bind_eq_ok_iff, mapError_eq_ok_iff, Renderer.render_date]
  constructor
  · rintro ⟨event, ⟨t, ht, message, hmessage, hevent⟩, hline⟩
    cases hevent
    cases hline
    exact ⟨t, ht, ⟨message, hmessage⟩, rfl⟩
  · rintro ⟨t, ht, ⟨message, hmessage⟩, rfl⟩
    exact ⟨_, ⟨t, ht, message, hmessage, rfl⟩, rfl⟩

/-- The output for a record: the text of its instant, and below it what
the record keeps of a failure and a stack. -/
theorem of_format_sortable_eq_ok {after : Record} {s : Text}
    (hinstant : r.created.IsInstant micros)
    (h : (sortableFormatter config hstyle).format r = .ok (s, after)) :
    ∃ t, (sortableFormatter config hstyle).eventLine r
        = .ok (sortableText t)
      ∧ t.wallMicros = micros ∧ s = sortableText t ++ after.below := by
  obtain ⟨line, kept, hline, -, rfl, rfl⟩ := Formatter.format_eq_ok_iff.1 h
  obtain ⟨t, hmoment, -, rfl⟩ :=
    (eventLine_sortable_eq_ok_iff hstyle).1 hline
  obtain ⟨found, hmicros, ht⟩ := Seconds.moment_eq_ok_iff.1 hmoment
  cases hmicros.symm.trans hinstant.1
  exact ⟨t, hline, wallMicros_ofInstant ht,
    appendPart_appendPart { r with failureText := kept }
      (newline_not_mem_sortableText t)⟩

/-- A record whose instant the calendar has gets an output unless its
message or the text of its failure cannot be had. -/
theorem exists_format_sortable_iff (hinstant : r.created.IsInstant micros) :
    (∃ s after, (sortableFormatter config hstyle).format r = .ok (s, after))
      ↔ (∃ message, Message.text r.message r.arguments = .ok message)
        ∧ ∃ kept, r.currentFailureText = .ok kept := by
  constructor
  · rintro ⟨s, after, h⟩
    obtain ⟨line, kept, hline, hkept, -⟩ := Formatter.format_eq_ok_iff.1 h
    obtain ⟨-, -, hmessage, -⟩ := (eventLine_sortable_eq_ok_iff hstyle).1 hline
    exact ⟨hmessage, kept, hkept⟩
  · rintro ⟨hmessage, kept, hkept⟩
    obtain ⟨t, ht⟩ := isOk_iff.1 hinstant.2
    have hmoment := Seconds.moment_eq_ok_iff.2 ⟨micros, hinstant.1, ht⟩
    have hline := (eventLine_sortable_eq_ok_iff hstyle).2
      ⟨t, hmoment, hmessage, rfl⟩
    exact ⟨_, _, Formatter.format_eq_ok_iff.2
      ⟨_, kept, hline, hkept, rfl, rfl⟩⟩

end Sortable

/-- For every configuration with the reference style there is a formatter
of the sortable layout. A record whose instant the calendar has gets an
output unless its message or the text of its failure cannot be had. The
lines of two such records are in the order of their instants, and equal
for equal instants only. So are their outputs, which go on below the
lines, as long as the instants differ; outputs of one instant are in the
order of what stands below. -/
theorem format_sortable_lt_iff {config : Config}
    (hstyle : DateStyle.ofName? config.dateStyle = some .reference) :
    ∃ f, Formatter.ofLayout sortableLayout config = .ok f
      ∧ (∀ r micros, r.created.IsInstant micros →
        ((∃ s after, f.format r = .ok (s, after))
          ↔ (∃ message, Message.text r.message r.arguments = .ok message)
            ∧ ∃ kept, r.currentFailureText = .ok kept))
      ∧ ∀ r r' after after' s s' a b,
        r.created.IsInstant a → r'.created.IsInstant b →
        f.format r = .ok (s, after) → f.format r' = .ok (s', after') →
        ∃ line line', f.eventLine r = .ok line ∧ f.eventLine r' = .ok line'
          ∧ s = line ++ after.below ∧ s' = line' ++ after'.below
          ∧ (line < line' ↔ a < b) ∧ (line = line' ↔ a = b)
          ∧ (s < s' ↔ a < b ∨ a = b ∧ after.below < after'.below)
          ∧ (s = s' ↔ a = b ∧ after.below = after'.below) := by
  refine ⟨_, ofLayout_sortableLayout hstyle,
    fun r micros h => exists_format_sortable_iff hstyle h, ?_⟩
  intro r r' after after' s s' a b ha hb h h'
  obtain ⟨t, hline, rfl, rfl⟩ := of_format_sortable_eq_ok hstyle ha h
  obtain ⟨u, hline', rfl, rfl⟩ := of_format_sortable_eq_ok hstyle hb h'
  have hlength := length_sortableText_eq t u
  refine ⟨_, _, hline, hline', rfl, rfl, sortableText_lt_iff t u,
    sortableText_eq_iff t u, ?_, ?_⟩
  · rw [Text.append_lt_append_iff hlength, sortableText_lt_iff,
      sortableText_eq_iff]
  · rw [← sortableText_eq_iff]
    constructor
    · exact fun heq => List.append_inj heq hlength
    · rintro ⟨hfront, hbelow⟩
      rw [hfront, hbelow]

/-- A record without a message. -/
def quietRecord (seconds : Int) (stack : Option Text) : Record where
  loggerName := .text "app"
  severity := 20
  created := .whole seconds
  message := .text ""
  arguments := .ordered []
  stack := stack

theorem format_quietRecord {f : Formatter} {seconds : Int}
    {stack : Option Text} {line : Text}
    (h : f.eventLine (quietRecord seconds stack) = .ok line) :
    f.format (quietRecord seconds stack)
      = .ok (appendPart line (stack.getD []), quietRecord seconds stack) :=
  Formatter.format_eq_ok_iff.2 ⟨line, none, h, rfl, rfl, rfl⟩

/-- The last second of the year 999, with a stack, comes before the one
after it. -/
theorem format_sortable_lt_iff_millennium :
    ∃ f, Formatter.ofLayout sortableLayout { dateStyle := "reference" }
        = .ok f
      ∧ f.format (quietRecord (-30610224001) (some "stack"))
        = .ok ("0999-12-31 23:59:59.000000\nstack",
          quietRecord (-30610224001) (some "stack"))
      ∧ f.format (quietRecord (-30610224000) none)
        = .ok ("1000-01-01 00:00:00.000000",
          quietRecord (-30610224000) none)
      ∧ ("0999-12-31 23:59:59.000000\nstack" : Text)
        < "1000-01-01 00:00:00.000000" := by
  have ha : (Seconds.whole (-30610224001)).IsInstant (-30610224001000000) := by
    decide +kernel
  have hb : (Seconds.whole (-30610224000)).IsInstant (-30610224000000000) := by
    decide +kernel
  obtain ⟨f, hlayout, -, horder⟩ :=
    @format_sortable_lt_iff { dateStyle := "reference" } rfl
  cases (ofLayout_sortableLayout rfl).symm.trans hlayout
  have h : (sortableFormatter { dateStyle := "reference" } rfl).format _ = _ :=
    @format_quietRecord _ (-30610224001) (some "stack")
      "0999-12-31 23:59:59.000000" (by decide +kernel)
  have h' : (sortableFormatter { dateStyle := "reference" } rfl).format _ = _ :=
    @format_quietRecord _ (-30610224000) none
      "1000-01-01 00:00:00.000000" (by decide +kernel)
  obtain ⟨-, -, -, -, -, -, -, -, hlt, -⟩ :=
    horder _ _ _ _ _ _ _ _ ha hb h h'
  exact ⟨_, hlayout, h, h', hlt.2 (.inl (by decide))⟩

/-- Outputs need not be in the order of instants: of two records of one
instant, the one with a stack has the larger output. -/
theorem not_format_sortable_lt_iff :
    ¬ ∀ f, Formatter.ofLayout sortableLayout { dateStyle := "reference" }
        = .ok f →
      ∀ r r' after after' s s' a b,
        r.created.IsInstant a → r'.created.IsInstant b →
        f.format r = .ok (s, after) → f.format r' = .ok (s', after') →
        (s < s' ↔ a < b) := by
  intro hall
  have hinstant : (Seconds.whole 0).IsInstant 0 := by decide +kernel
  have hlayout := @ofLayout_sortableLayout { dateStyle := "reference" } rfl
  have h : (sortableFormatter { dateStyle := "reference" } rfl).format _ = _ :=
    @format_quietRecord _ 0 none "1970-01-01 00:00:00.000000"
      (by decide +kernel)
  have h' : (sortableFormatter { dateStyle := "reference" } rfl).format _ = _ :=
    @format_quietRecord _ 0 (some "x") "1970-01-01 00:00:00.000000"
      (by decide +kernel)
  have hiff := hall _ hlayout _ _ _ _ _ _ 0 0 hinstant hinstant h h'
  exact absurd (hiff.1 (by decide +kernel)) (by decide)

end Logline
