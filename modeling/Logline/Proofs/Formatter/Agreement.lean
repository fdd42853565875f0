/-
A formatter and the render tool give a record the same line. The two make
the event on ways of their own. The formatter takes it from the record:
the moment from seconds, the level from the severity. The tool reads it
from a request, the moment from a text, and resolves the configuration
for every request anew.

They meet at the event. The moment of a record is in UTC, so its extended
form is read back as the moment (`ofText_isoText`), and the request for a
record stands for the event that the record has. From there on both hand
the same event to the same renderer. A record with neither failure nor
stack adds nothing below the line, so the two outcomes are the
renderer's; and all that can go wrong in it is a level outside the table
(`of_render_eq_error`).
-/
import Logline.Formatter
import Logline.Proofs.Calendar.Readback
import Logline.Proofs.Formatter.Moment
import Logline.Proofs.Strictness
import Logline.Proofs.Tool.Line

namespace Logline

open Calendar Layout

-- ======================================================== the two events

namespace Record

variable {r : Record} {name message : Text} {moment : Timestamp}

/-- What a record says: it has a text for a name, its moment can be told,
and its message takes its arguments. -/
structure Says (r : Record) (name message : Text) (moment : Timestamp) :
    Prop where
  name_eq : r.loggerName = .text name
  message_eq : Message.text r.message r.arguments = .ok message
  moment_eq : r.created.moment = .ok moment

/-- Has a record nothing to be told below its line? -/
structure IsBare (r : Record) : Prop where
  no_failure : r.failure = none
  no_failureText : r.failureText.getD [] = []
  no_stack : r.stack.getD [] = []

/-- The place of the level that a record's severity falls into. -/
def ordinal (r : Record) : Nat :=
  (Severity.ofNumber r.severity).ordinal

/-- The request that says what a record says, its moment in the extended
form. -/
def request (r : Record) (layout name message : Text)
    (moment : Timestamp) : RenderRequest where
  layout := layout
  event := ⟨.text name, .int r.ordinal, .text message, .text moment.isoText⟩

namespace Says

variable (h : r.Says name message moment)
include h

theorem event_eq :
    r.event = .ok ⟨.text name, moment, .number r.ordinal, .text message⟩ := by
  unfold Record.event
  rw [h.name_eq, h.message_eq, h.moment_eq]
  rfl

/-- The fields of the request are in order. -/
theorem check_request (layout : Text) :
    (r.request layout name message moment).event.check
      = .ok ⟨name, .ordinal r.ordinal, message, some moment⟩ := by
  have hread : Timestamp.ofText moment.isoText = .ok moment :=
    ofText_isoText (Seconds.zone_of_moment h.moment_eq) Zone.isPlain_utc
  have hmoment : EventRequest.checkMoment (.text moment.isoText)
      = .ok (some moment) := by
    rw [EventRequest.checkMoment, momentOfValue, hread]
    rfl
  unfold EventRequest.check request
  simp only [hmoment]
  rfl

theorem eventOf_request (now : Timestamp) (names : List Text) :
    RenderRequest.eventOf now names
        ⟨name, .ordinal r.ordinal, message, some moment⟩
      = .ok ⟨.text name, moment, .number r.ordinal, .text message⟩ := by
  have hutc : moment.withDefaultZone Zone.utc = moment := by
    rw [Timestamp.withDefaultZone, Seconds.zone_of_moment h.moment_eq,
      Option.getD_some, ← Seconds.zone_of_moment h.moment_eq]
  show Except.ok (⟨.text name, moment.withDefaultZone Zone.utc, _, _⟩
    : Event) = _
  rw [hutc]

end Says

end Record

-- ====================================================== the two outcomes

theorem appendPart_nil (t : Text) : appendPart t [] = t :=
  if_pos rfl

/-- A bare record has the line of its event, and is not changed. -/
theorem Formatter.format_of_isBare (f : Formatter) {r : Record}
    {event : Event} (hbare : r.IsBare) (hevent : r.event = .ok event) :
    f.format r
      = ((f.renderer.render event f.template).mapError .badLine).map
        fun line => (line, r) := by
  have hkept := Record.currentFailureText_of_no_failure hbare.no_failure
  unfold Formatter.format Formatter.eventLine
  rw [hkept, hevent]
  show ((f.renderer.render event f.template).mapError _ >>= _) = _
  cases f.renderer.render event f.template with
  | error why => rfl
  | ok line =>
      show Except.ok (appendPart (appendPart line (r.failureText.getD []))
        (r.stack.getD []), _) = _
      rw [hbare.no_failureText, hbare.no_stack, appendPart_nil,
        appendPart_nil]
      rfl

/-- For every layout that compiles and every configuration that the
environment leaves with a known date style there is a formatter, and what
it makes of a bare record the render tool makes of the request that says
what the record says: the same line, or else the same complaint about a
level outside the table, which only a strict configuration has. -/
theorem format_eq_line {layout name message : Text} {template : Template}
    {env : Environment} {config resolved : Config} {style : DateStyle}
    {r : Record} {moment : Timestamp}
    (hlayout : compile layout = .ok template)
    (hresolved : config.resolve env = .ok resolved)
    (hstyle : DateStyle.ofName? resolved.dateStyle = some style)
    (hsaid : r.Says name message moment) (hbare : r.IsBare) :
    ∃ f, Formatter.ofLayout layout resolved = .ok f
      ∧ ((∃ line, f.format r = .ok (line, r)
          ∧ ∀ now, (r.request layout name message moment).line now env config
            = .ok line)
        ∨ ∃ why, resolved.strictLevels = true
          ∧ why = .levelOutside (.number r.ordinal)
            resolved.levelNames.length
          ∧ f.format r = .error (.badLine why)
          ∧ ∀ now, (r.request layout name message moment).line now env config
            = .error (.badLine why)) := by
  have hrenderer := Renderer.ofConfig_of_ofName? hstyle
  have hformatter : Formatter.ofLayout layout resolved
      = .ok ⟨template, ⟨resolved, style, hstyle⟩⟩ := by
    unfold Formatter.ofLayout
    rw [hlayout, hrenderer]
    rfl
  refine ⟨_, hformatter, ?_⟩
  have hformat := Formatter.format_of_isBare
    ⟨template, ⟨resolved, style, hstyle⟩⟩ hbare hsaid.event_eq
  have hline : ∀ now,
      (r.request layout name message moment).line now env config = _ :=
    fun now =>
      RenderRequest.line_eq_render hresolved rfl
        (hsaid.check_request layout) hlayout (hsaid.eventOf_request now _)
        hrenderer
  -- both are the renderer's outcome for the same event
  rw [hformat]
  simp only [hline]
  cases hrender : (⟨resolved, style, hstyle⟩ : Renderer).render
      ⟨.text name, moment, .number r.ordinal, .text message⟩ template with
  | ok line => exact .inl ⟨line, rfl, fun _ => rfl⟩
  | error why =>
      obtain ⟨hstrict, hwhy⟩ :=
        Renderer.of_render_eq_error hlayout rfl hrender
      exact .inr ⟨why, hstrict, hwhy, rfl, fun _ => rfl⟩

/-- A record of the second before Unix time started, with an argument to
fill in. -/
def eveRecord : Record where
  loggerName := .text "app"
  severity := 35
  created := .whole (-1)
  message := .text "%s!"
  arguments := .ordered [.text "hi"]

theorem format_eq_line_eve :
    ∃ f, Formatter.ofLayout "%d\x7b%F %T %Z\x7d [%p] %m" {} = .ok f
      ∧ f.format eveRecord
        = .ok ("1969-12-31 23:59:59 UTC [WARN] hi!", eveRecord)
      ∧ ∀ now, (⟨"%d\x7b%F %T %Z\x7d [%p] %m", ⟨.text "app", .int 2,
          .text "hi!", .text "1969-12-31T23:59:59+00:00"⟩, .null⟩
            : RenderRequest).line now .empty {}
          = .ok "1969-12-31 23:59:59 UTC [WARN] hi!" := by
  have hlayout : compile "%d\x7b%F %T %Z\x7d [%p] %m"
      = .ok ⟨[⟨.timestamp, "%F %T %Z"⟩, ⟨.text, " ["⟩, ⟨.level, []⟩,
          ⟨.text, "] "⟩, ⟨.message, []⟩], "%d\x7b%F %T %Z\x7d [%p] %m"⟩ := by
    decide +kernel
  have hsaid : eveRecord.Says "app" "hi!"
      ⟨.mk 1969 12 31, .mk 23 59 59 0, some Zone.utc⟩ :=
    ⟨rfl, by decide +kernel, by decide +kernel⟩
  have hresolved : Config.resolve {} .empty = .ok {} := rfl
  have hstyle : DateStyle.ofName? ({} : Config).dateStyle
      = some .directives := rfl
  obtain ⟨f, hf, ⟨line, hformat, hline⟩ | ⟨why, hstrict, -⟩⟩ :=
    format_eq_line hlayout hresolved hstyle hsaid ⟨rfl, rfl, rfl⟩
  · have hvalue : (⟨"%d\x7b%F %T %Z\x7d [%p] %m", ⟨.text "app", .int 2,
        .text "hi!", .text "1969-12-31T23:59:59+00:00"⟩, .null⟩
          : RenderRequest).line .first .empty {}
        = .ok "1969-12-31 23:59:59 UTC [WARN] hi!" := by decide +kernel
    cases (hline _).symm.trans hvalue
    exact ⟨f, hf, hformat, hline⟩
  · cases hstrict

end Logline
