/-
How runs of the command line end.

A line that does not start the server is read as a task or refused. Where
it is refused there is a help text or a usage error to write. The two
tasks are a tool each, and what a tool comes to is written as a whole or
not at all, since it is known before anything is written and the standard
output is taken to hold every text.

What is left to show is that no tool fails in a way that the program does
not expect. There are two such ways (`isExpected`), and no task goes
either: an option that is given says a text, or nothing at all, and
nothing is not a date style that is asked for; and the logger name of an
event has been checked when the event is rendered
(`isExpected_of_line_eq_error`).
-/
import Logline.Proofs.Command.Reading
import Logline.Proofs.Strictness
import Logline.Proofs.Tool.Line

namespace Logline

open Calendar Layout

namespace RenderRequest

variable {r : RenderRequest} {now : Timestamp} {env : Environment}
  {config : Config}

/-- A date style that is a text, or says nothing, is refused for its name
only. -/
theorem isExpected_of_styled_eq_error {why : ToolError}
    (hstyle : r.dateStyle.saysAnything = true → ∃ t, r.dateStyle = .text t)
    (h : r.styled config = .error why) : Command.isExpected why = true := by
  unfold styled at h
  split at h
  · cases h
  · next hsays =>
    obtain ⟨asked, hasked⟩ := hstyle (by simpa using hsays)
    rw [hasked] at h
    simp only at h
    split at h
    · cases h
    · cases h
      rfl

/-- A request whose date style is a text, or says nothing, fails only in
ways that the program expects. -/
theorem isExpected_of_line_eq_error {why : ToolError}
    (hstyle : r.dateStyle.saysAnything = true → ∃ t, r.dateStyle = .text t)
    (h : r.line now env config = .error why) :
    Command.isExpected why = true := by
  unfold line compileTool at h
  simp only [bind_eq_error_iff, mapError_eq_error_iff,
    mapError_eq_ok_iff] at h
  obtain ⟨_, -, rfl⟩ | ⟨_, -, h⟩ := h
  · rfl
  obtain h | ⟨_, -, h⟩ := h
  · exact isExpected_of_styled_eq_error hstyle h
  obtain ⟨_, -, rfl⟩ | ⟨_, -, h⟩ := h
  · rfl
  obtain ⟨_, -, rfl⟩ | ⟨template, htemplate, h⟩ := h
  · rfl
  obtain ⟨_, -, rfl⟩ | ⟨event, hevent, h⟩ := h
  · rfl
  obtain ⟨why, hwhy, rfl⟩ | ⟨renderer, -, h⟩ := h
  · -- the renderer is refused for the name of its style
    unfold Renderer.ofConfig at hwhy
    split at hwhy
    · cases hwhy
    · cases hwhy
      rfl
  · obtain ⟨why, hwhy, rfl⟩ := h
    obtain ⟨name, hname⟩ := exists_name_of_eventOf hevent
    obtain ⟨-, rfl⟩ := Renderer.of_render_eq_error htemplate hname hwhy
    rfl

end RenderRequest

namespace Command

-- ============================================================= endings

/-- Does a run succeed without a word on the error output, or else fail
with the one exit code for it, without a word on the standard output but
with one on the error output? -/
def Outcome.AllOrNothing (o : Outcome) : Prop :=
  (o.exitCode = 0 ∧ o.stderr = [])
    ∨ (o.exitCode = 2 ∧ o.stdout = [] ∧ o.stderr ≠ [])

/-- The ways in which a run ends that does not start the server. -/
inductive Ending (now : Timestamp) (env : Environment) : Outcome → Prop where
  /-- Help is asked for. -/
  | help (s : Screen) : Ending now env (.success s.help)
  /-- The line does not follow the grammar. -/
  | usage (s : Screen) (why : UsageError) :
      Ending now env ⟨Outcome.failureCode, [], s.complaint why⟩
  /-- All pieces of a layout are listed. -/
  | listed {layout : Text} {template : Template}
      (h : compile layout = .ok template) :
      Ending now env (.success (listing template))
  /-- The whole line of a request is written. -/
  | rendered {r : RenderRequest} {line : Text}
      (h : r.line now env {} = .ok line) :
      Ending now env (.success (line ++ "\n"))
  /-- A tool fails in a way that the program expects. -/
  | failed (why : ToolError) (h : isExpected why = true) :
      Ending now env (.failure why.message)

variable {now : Timestamp} {env : Environment} {words : List Text}

theorem complaint_ne_nil (s : Screen) (why : UsageError) :
    s.complaint why ≠ [] := by
  unfold Screen.complaint
  exact List.append_ne_nil_of_right_ne_nil _ (List.cons_ne_nil _ _)

theorem Ending.allOrNothing {o : Outcome} (h : Ending now env o) :
    o.AllOrNothing := by
  cases h with
  | help s => exact .inl ⟨rfl, rfl⟩
  | usage s why => exact .inr ⟨rfl, rfl, complaint_ne_nil s why⟩
  | listed h => exact .inl ⟨rfl, rfl⟩
  | rendered h => exact .inl ⟨rfl, rfl⟩
  | failed why h => exact .inr ⟨rfl, rfl, List.cons_ne_nil _ _⟩

-- ====================================================== lines and tasks

/-- A line that is not read to its end ends the run. -/
theorem ending_stopped (s : Screen) (why : Stop) :
    Ending now env (stopped s why) := by
  cases why with
  | help => exact .help s
  | usage why => exact .usage s why

/-- A line that is not read ends in help or in a usage error. -/
theorem ending_of_read_eq_error {o : Outcome} (h : read words = .error o) :
    Ending now env o := by
  unfold read at h
  obtain h | ⟨r, -, h⟩ := bind_eq_error_iff.1 h
  · obtain ⟨why, -, rfl⟩ := mapError_eq_error_iff.1 h
    exact ending_stopped .main why
  · simp only at h
    split at h
    · next c hc =>
      unfold readCommand at h
      obtain h | ⟨own, -, h⟩ := bind_eq_error_iff.1 h
      · obtain ⟨why, -, rfl⟩ := mapError_eq_error_iff.1 h
        exact ending_stopped (.command c) why
      · split at h
        · cases h
        · cases h
          exact ending_stopped .main (.usage _)
    · cases h
      exact ending_stopped .main (.usage _)

/-- What an option says is a text if it says anything. -/
theorem text_of_optionValue (r : Reading) (name : Text)
    (h : (optionValue r name .null).saysAnything = true) :
    ∃ t, optionValue r name .null = .text t := by
  unfold optionValue at h ⊢
  split at h
  · cases h
  · cases h
  · next value hvalue => exact ⟨value, rfl⟩

/-- A task to render is made of what the options say. -/
theorem exists_reading_of_read {request : RenderRequest}
    (h : read words = .ok (.render request)) :
    ∃ r layout, request = renderRequest r layout := by
  unfold read at h
  obtain ⟨r, -, h⟩ := bind_eq_ok_iff.1 h
  simp only at h
  split at h
  · next c hc =>
    unfold readCommand at h
    obtain ⟨own, -, h⟩ := bind_eq_ok_iff.1 h
    split at h
    · cases c with
      | render =>
          cases h
          exact ⟨own, _, rfl⟩
      | check => cases h
      | serve => cases h
    · cases h
  · cases h

theorem ending_runCheck (layout : Text) :
    Ending now env (runCheck layout) := by
  unfold runCheck compileTool
  cases h : compile layout with
  | ok template => exact .listed h
  | error fault => exact .failed (.badLayout fault) rfl

theorem ending_runRender (r : Reading) (layout : Text) :
    Ending now env (runRender now env (renderRequest r layout)) := by
  unfold runRender
  split
  · next line hline => exact .rendered hline
  · next why hwhy =>
    have hexpected := RenderRequest.isExpected_of_line_eq_error
      (text_of_optionValue r dateStyleOption) hwhy
    rw [failed, if_pos hexpected]
    exact .failed why hexpected

/-- Every line but the one that starts the server ends in one of the
ways. -/
theorem exists_ending (h : words ≠ [serve.word]) :
    ∃ o, run now env words = .ended o ∧ Ending now env o := by
  unfold run
  split
  · next o ho => exact ⟨o, rfl, ending_of_read_eq_error ho⟩
  · next layout hlayout => exact ⟨_, rfl, ending_runCheck layout⟩
  · next request hrequest =>
    obtain ⟨r, layout, rfl⟩ := exists_reading_of_read hrequest
    exact ⟨_, rfl, ending_runRender r layout⟩
  · next hserve => exact absurd (read_eq_serve_iff.1 hserve) h

/-- The command line is all or nothing. One line starts the server, which
is the word for it alone. Every other line ends its run, in any
environment: with a help text, a whole listing or a whole line and not a
word on the error output, or with a failure, of which the standard output
shows nothing. No run is broken off by a failure that the program does not
expect. -/
theorem run_all_or_nothing (now : Timestamp) (env : Environment)
    (words : List Text) :
    (read words = .ok .serve ↔ words = [serve.word])
      ∧ (words ≠ [serve.word] → ∃ o, run now env words = .ended o
        ∧ o.AllOrNothing ∧ Ending now env o) := by
  refine ⟨read_eq_serve_iff, fun h => ?_⟩
  obtain ⟨o, hrun, hending⟩ := exists_ending h
  exact ⟨o, hrun, hending.allOrNothing, hending⟩

/-- A logger name of two dashes is dropped by the grammar and missed by
the tool. -/
theorem run_all_or_nothing_dashes :
    ∃ o, run .first .empty ["render", "--logger=--", "%c"] = .ended o
      ∧ o.AllOrNothing
      ∧ o = ⟨2, [], "Error: 1 validation error for EventInput\n"⟩ := by
  have hwords : (["render", "--logger=--", "%c"] : List Text)
      ≠ [serve.word] := by decide
  obtain ⟨-, hends⟩ :=
    run_all_or_nothing .first .empty ["render", "--logger=--", "%c"]
  obtain ⟨o, hrun, hall, -⟩ := hends hwords
  have hvalue : run .first .empty ["render", "--logger=--", "%c"]
      = .ended ⟨2, [], "Error: 1 validation error for EventInput\n"⟩ := by
    rfl
  refine ⟨o, hrun, hall, ?_⟩
  rw [hvalue] at hrun
  cases hrun
  rfl

end Command

end Logline
