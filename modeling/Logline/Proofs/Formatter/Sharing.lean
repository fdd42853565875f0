/-
Formatters that share records. A program hands one record to many
formatters, and a formatter writes into it: the text of the failure is
kept in the record for whoever comes next. So what a formatter finds
depends on who came before. What it answers does not.

# In place

`formatInPlace` is formatting with the writing in it. Its steps share the
record, and one that fails leaves what those before it have written. But
only one step writes, and none after it fails; so a run that fails has
changed nothing, and `format` tells all that there is to tell
(`formatInPlace_run`).

# What runs leave behind

`Filled` is all that any number of runs does to a record: nothing, or the
text of its failure put where there was none. Every call keeps to it, the
failing ones included (`Call.filled_next`), and no formatter tells a
filled record from the one that it was (`Filled.format_eq`), because the
text that it finds is the one that it would have made. By induction over
the calls each is answered as it would be by itself.
-/
import Logline.Formatter
import Logline.Proofs.Chain
import Mathlib.Control.Monad.Basic
import Mathlib.Logic.Function.Basic

namespace Logline

-- ============================================================= in place

namespace Formatter

/-- Puts the text of a record's failure into the record, unless there is
one. -/
def keepFailureText : ExceptT FormatError (StateM Record) Unit := do
  let r ← get
  match r.failure with
  | none => return
  | some attachment =>
    if r.failureText.getD [] = [] then
      let text ←
        MonadExcept.ofExcept (attachment.text.mapError .badFailure)
      set { r with failureText := some text }

/-- Makes the line of a record, and writes into the record on the way. -/
def formatInPlace (f : Formatter) :
    ExceptT FormatError (StateM Record) Text := do
  let line ← MonadExcept.ofExcept (f.eventLine (← get))
  keepFailureText
  let r ← get
  let line := appendPart line (r.failureText.getD [])
  return appendPart line (r.stack.getD [])

/-- What keeping the text does is told by which text is kept then. -/
theorem keepFailureText_run (r : Record) :
    keepFailureText.run.run r
      = match r.currentFailureText with
        | .ok kept => (.ok (), { r with failureText := kept })
        | .error why => (.error (.badFailure why), r) := by
  obtain ⟨name, severity, created, message, arguments, failure, text,
    stack⟩ := r
  simp only [keepFailureText, run_bind, run_get]
  cases failure with
  | none =>
      rw [Record.currentFailureText_of_no_failure rfl]
      rfl
  | some attachment =>
      dsimp only
      by_cases hempty : text.getD [] = []
      · rw [if_pos hempty, Record.currentFailureText_of_empty rfl hempty]
        simp only [run_bind, run_ofExcept]
        cases attachment.text <;> rfl
      · rw [if_neg hempty, Record.currentFailureText_of_kept hempty]
        rfl

/-- What formatting in place answers, and the record after it: `format`
tells both, and where it fails the record is the one before. -/
theorem formatInPlace_run (f : Formatter) (r : Record) :
    f.formatInPlace.run.run r
      = match f.format r with
        | .ok (line, after) => (.ok line, after)
        | .error why => (.error why, r) := by
  unfold format
  simp only [formatInPlace, run_bind, run_get, run_ofExcept, run_pure,
    keepFailureText_run]
  cases f.eventLine r with
  | error why => rfl
  | ok line =>
      dsimp only
      cases r.currentFailureText <;> rfl

end Formatter

-- =========================================================== one record

/-- A record as it was, or with the text of its failure put where there
was none. -/
inductive Filled (r : Record) : Record → Prop where
  | same : Filled r r
  | filled {attachment : Attachment} {text : Text}
      (hfailure : r.failure = some attachment)
      (hempty : r.failureText.getD [] = [])
      (htext : attachment.text = .ok text) :
      Filled r { r with failureText := some text }

namespace Filled

variable {r r' r'' : Record}

theorem trans (h : Filled r r') (h' : Filled r' r'') : Filled r r'' := by
  cases h with
  | same => exact h'
  | filled hfailure hempty htext =>
      cases h' with
      | same => exact .filled hfailure hempty htext
      | filled hfailure' _ htext' =>
          exact .filled hfailure' hempty htext'

theorem eventLine_eq (h : Filled r r') (f : Formatter) :
    f.eventLine r' = f.eventLine r := by
  cases h <;> rfl

theorem stack_eq (h : Filled r r') : r'.stack = r.stack := by
  cases h <;> rfl

/-- The text that is found is the one that is made. -/
theorem currentFailureText_eq (h : Filled r r') :
    r'.currentFailureText = r.currentFailureText := by
  cases h with
  | same => rfl
  | @filled attachment text hfailure hempty htext =>
      rw [Record.currentFailureText_of_empty hfailure hempty, htext]
      -- a failure whose text is empty has it made again, to the same text
      by_cases hnil : text = []
      · rw [Record.currentFailureText_of_empty
          (r := { r with failureText := some text }) hfailure hnil, htext]
      · exact Record.currentFailureText_of_kept
          (r := { r with failureText := some text }) hnil

/-- A formatter does not tell a filled record from the one that it was:
it answers both alike. -/
theorem format_eq (h : Filled r r') (f : Formatter) :
    (f.format r').map Prod.fst = (f.format r).map Prod.fst := by
  unfold Formatter.format
  rw [h.eventLine_eq, h.currentFailureText_eq, h.stack_eq]
  cases f.eventLine r with
  | error why => rfl
  | ok line => cases r.currentFailureText <;> rfl

end Filled

/-- The text that is kept in the end is the one before, or it is made of
the failure and nothing was there before. -/
theorem Record.filled_of_currentFailureText {r : Record}
    {kept : Option Text} (h : r.currentFailureText = .ok kept) :
    Filled r { r with failureText := kept } := by
  have hsame : r.failureText = kept
      → Filled r { r with failureText := kept } := by
    rintro rfl
    exact .same
  by_cases hempty : r.failureText.getD [] = []
  · obtain hfailure | ⟨attachment, hfailure⟩ :=
      Option.eq_none_or_eq_some r.failure
    · rw [currentFailureText_of_no_failure hfailure] at h
      exact hsame (Except.ok.inj h)
    · rw [currentFailureText_of_empty hfailure hempty] at h
      obtain ⟨text, htext, rfl⟩ := map_eq_ok_iff.1 h
      exact .filled hfailure hempty htext
  · rw [currentFailureText_of_kept hempty] at h
    exact hsame (Except.ok.inj h)

theorem Formatter.filled_of_format {f : Formatter} {r after : Record}
    {line : Text} (h : f.format r = .ok (line, after)) :
    Filled r after := by
  obtain ⟨first, -, h⟩ := bind_eq_ok_iff.1 h
  obtain ⟨kept, hkept, h⟩ := bind_eq_ok_iff.1 h
  cases h
  exact Record.filled_of_currentFailureText (mapError_eq_ok_iff.1 hkept)

-- ======================================================= many records

/-- A formatter is asked for the line of the record at a place. -/
structure Call (ι : Type) where
  formatter : Formatter
  place : ι

section Calls

variable {ι : Type} [DecidableEq ι]

namespace Call

/-- What a call answers, and the records after it. -/
def perform (call : Call ι) (records : ι → Record) :
    Except FormatError Text × (ι → Record) :=
  let (answer, after) :=
    call.formatter.formatInPlace.run.run (records call.place)
  (answer, Function.update records call.place after)

def answer (call : Call ι) (records : ι → Record) :
    Except FormatError Text :=
  (call.perform records).1

def next (call : Call ι) (records : ι → Record) : ι → Record :=
  (call.perform records).2

variable (call : Call ι) (records : ι → Record)

theorem answer_eq :
    call.answer records
      = (call.formatter.format (records call.place)).map Prod.fst := by
  unfold answer perform
  rw [Formatter.formatInPlace_run]
  cases call.formatter.format (records call.place) <;> rfl

/-- A call that fails leaves all records as they were. -/
theorem next_of_error {why : FormatError}
    (h : call.answer records = .error why) : call.next records = records := by
  rw [answer_eq] at h
  unfold next perform
  rw [Formatter.formatInPlace_run]
  cases hformat : call.formatter.format (records call.place) with
  | error found => exact Function.update_eq_self _ _
  | ok result =>
      rw [hformat] at h
      cases h

/-- A call that has a line leaves a filled record in its place. -/
theorem next_of_ok {line : Text} (h : call.answer records = .ok line) :
    ∃ after, call.next records = Function.update records call.place after
      ∧ Filled (records call.place) after := by
  rw [answer_eq] at h
  obtain ⟨⟨_, after⟩, hformat, rfl⟩ := map_eq_ok_iff.1 h
  refine ⟨after, ?_, Formatter.filled_of_format hformat⟩
  unfold next perform
  rw [Formatter.formatInPlace_run, hformat]

/-- Whatever comes of a call, every record is filled at most. -/
theorem filled_next (place : ι) :
    Filled (records place) (call.next records place) := by
  cases h : call.answer records with
  | error why =>
      rw [call.next_of_error records h]
      exact .same
  | ok line =>
      obtain ⟨after, hnext, hfilled⟩ := call.next_of_ok records h
      rw [hnext]
      by_cases hplace : place = call.place
      · rw [hplace, Function.update_self]
        exact hfilled
      · rw [Function.update_of_ne hplace]
        exact .same

theorem answer_of_filled {current : ι → Record}
    (h : ∀ place, Filled (records place) (current place)) :
    call.answer current = call.answer records := by
  rw [answer_eq, answer_eq]
  exact (h call.place).format_eq call.formatter

end Call

/-- What calls answer that are made one after another. -/
def answers : List (Call ι) → (ι → Record) → List (Except FormatError Text)
  | [], _ => []
  | call :: calls, records =>
    call.answer records :: answers calls (call.next records)

/-- The records after calls that are made one after another. -/
def after : List (Call ι) → (ι → Record) → ι → Record
  | [], records => records
  | call :: calls, records => after calls (call.next records)

/-- After any run every record is filled at most. -/
theorem filled_after (calls : List (Call ι)) (records : ι → Record)
    (place : ι) : Filled (records place) (after calls records place) := by
  induction calls generalizing records with
  | nil => exact .same
  | cons call calls ih =>
      exact (call.filled_next records place).trans (ih (call.next records))

/-- On records that are filled at most every call of a run is answered as
it would be on the records as they were. -/
theorem answers_of_filled (calls : List (Call ι))
    {records current : ι → Record}
    (h : ∀ place, Filled (records place) (current place)) :
    answers calls current = calls.map (·.answer records) := by
  induction calls generalizing current with
  | nil => rfl
  | cons call calls ih =>
      have hnext : ∀ place,
          Filled (records place) (call.next current place) :=
        fun place => (h place).trans (call.filled_next current place)
      rw [answers, List.map_cons, call.answer_of_filled records h, ih hnext]

/-- Calls that are made one after another are answered as each formatter
answers for the record as it was, so neither the order of the calls nor
their number matters to any line. A call that fails leaves all records as
they were. One that has a line changes its record at most, and that only
by putting the text of the failure where there was none; and so does every
run. -/
theorem answers_eq_alone (records : ι → Record) (calls : List (Call ι)) :
    answers calls records
        = calls.map (fun call =>
          (call.formatter.format (records call.place)).map Prod.fst)
      ∧ (∀ (call : Call ι) (current : ι → Record) (why : FormatError),
        call.answer current = .error why → call.next current = current)
      ∧ (∀ (call : Call ι) (current : ι → Record) (line : Text),
        call.answer current = .ok line →
          ∃ r, call.next current = Function.update current call.place r
            ∧ Filled (current call.place) r)
      ∧ ∀ place, Filled (records place) (after calls records place) := by
  refine ⟨?_, ?_, ?_, ?_⟩
  · rw [answers_of_filled calls fun _ => .same]
    exact List.map_congr_left fun call _ => call.answer_eq records
  · intro call current why h
    exact call.next_of_error current h
  · intro call current line h
    exact call.next_of_ok current h
  · exact filled_after calls records

end Calls

/-- A record with a failure, whose text is to be made. -/
def brokenRecord : Record where
  loggerName := .text "app"
  severity := 40
  created := .whole 0
  message := .text "no luck"
  arguments := .ordered []
  failure := some (.failure (.raised "ValueError" [.text "boom"] none none))

/-- One formatter shows the message, the other the level, for which it has
no name. The text of the failure is made for the first line and found for
the second. -/
theorem answers_eq_alone_broken :
    let shows : Call Unit :=
      ⟨⟨⟨[⟨.message, []⟩], "%m"⟩, ⟨{}, .directives, rfl⟩⟩, ()⟩
    let fails : Call Unit :=
      ⟨⟨⟨[⟨.level, []⟩], "%p"⟩,
        ⟨{ levelNames := [], strictLevels := true }, .directives, rfl⟩⟩, ()⟩
    answers [shows, fails, shows] (fun _ => brokenRecord)
        = [.ok "no luck\nValueError: boom",
          .error (.badLine (.levelOutside (.number 1) 0)),
          .ok "no luck\nValueError: boom"]
      ∧ fails.next (fun _ => brokenRecord) = (fun _ => brokenRecord)
      ∧ (∃ r, shows.next (fun _ => brokenRecord)
          = Function.update (fun _ => brokenRecord) () r
        ∧ Filled brokenRecord r)
      ∧ (shows.next (fun _ => brokenRecord) ()).failureText
        = some "ValueError: boom" := by
  intro shows fails
  have hshows : shows.answer (fun _ => brokenRecord)
      = .ok "no luck\nValueError: boom" := by decide +kernel
  have hfails : fails.answer (fun _ => brokenRecord)
      = .error (.badLine (.levelOutside (.number 1) 0)) := by decide +kernel
  obtain ⟨hanswers, hfailed, hfilled, -⟩ :=
    answers_eq_alone (fun _ => brokenRecord) [shows, fails, shows]
  refine ⟨?_, hfailed fails _ _ hfails, hfilled shows _ _ hshows,
    by decide +kernel⟩
  rw [hanswers, ← hshows, ← hfails, shows.answer_eq, fails.answer_eq]
  rfl

end Logline
