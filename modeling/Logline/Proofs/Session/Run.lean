/-
Runs of a session. A run answers its operations one after another, so it
is known from two things: what a session answers to one operation, and
which session goes on from there (`answer` and `next`). The runs of two
lists are joined as the lists are (`run_append`), and the answer at a
place of a run is the one that the session there gives (`getElem?_run`).

An operation that only looks leaves the session as it is, and so does one
that fails. It can be taken out of a run without a trace (`eraseIdx_run`).
-/
import Logline.Proofs.Chain
import Logline.Session

namespace Logline

open Calendar Layout

namespace Session

variable {s : Session} {op : Operation}

-- ======================================================= one operation

/-- What a session answers to an operation. -/
def answer (s : Session) (op : Operation) : Except Error Answer :=
  (s.perform op).map (·.1)

/-- The session that goes on after an operation. -/
def next (s : Session) (op : Operation) : Session :=
  match s.perform op with
  | .ok (_, after) => after
  | .error _ => s

theorem answer_of_ok {a : Answer} {s' : Session}
    (h : s.perform op = .ok (a, s')) : s.answer op = .ok a := by
  rw [answer, h]
  rfl

theorem next_of_ok {a : Answer} {s' : Session}
    (h : s.perform op = .ok (a, s')) : s.next op = s' := by
  rw [next, h]

theorem answer_of_error {why : Error} (h : s.perform op = .error why) :
    s.answer op = .error why := by
  rw [answer, h]
  rfl

theorem next_of_error {why : Error} (h : s.perform op = .error why) :
    s.next op = s := by
  rw [next, h]

theorem next_of_answer_eq_error {why : Error}
    (h : s.answer op = .error why) : s.next op = s := by
  cases hperform : s.perform op with
  | error found => exact next_of_error hperform
  | ok result =>
      rw [answer_of_ok hperform] at h
      cases h

/-- Does an operation only look at what is kept? -/
def Operation.Looks : Operation → Prop
  | .setVariable _ _ => False
  | .compile _ _ => False
  | .build _ _ _ => False
  | .render _ _ _ => True
  | .levelName _ _ => True
  | .template _ => True

/-- Operations that only look leave the session as it is. -/
theorem next_of_looks (h : op.Looks) : s.next op = s := by
  have hsame : ∀ {a s'}, s.perform op = .ok (a, s') → s' = s := by
    intro a s' hperform
    cases op with
    | setVariable name value => cases h
    | compile id layout => cases h
    | build id config resolve => cases h
    | render rendererId templateId event =>
        simp only [perform, bind_eq_ok_iff] at hperform
        obtain ⟨_, -, _, -, _, -, _, -, heq⟩ := hperform
        cases heq
        rfl
    | levelName rendererId level =>
        simp only [perform, bind_eq_ok_iff] at hperform
        obtain ⟨_, -, _, -, heq⟩ := hperform
        cases heq
        rfl
    | template id =>
        simp only [perform, bind_eq_ok_iff] at hperform
        obtain ⟨_, -, heq⟩ := hperform
        cases heq
        rfl
  cases hperform : s.perform op with
  | error why => exact next_of_error hperform
  | ok result => exact (next_of_ok hperform).trans (hsame hperform)

-- ====================================================== all operations

/-- The session that keeps nothing yet. -/
def start (env : Environment) : Session :=
  { environment := env }

/-- The session after operations. -/
def after (s : Session) (ops : List Operation) : Session :=
  ops.foldl next s

theorem run_cons (s : Session) (op : Operation) (rest : List Operation) :
    s.run (op :: rest) = s.answer op :: (s.next op).run rest := by
  rw [run, answer, next]
  cases s.perform op <;> rfl

theorem run_append (s : Session) (before rest : List Operation) :
    s.run (before ++ rest) = s.run before ++ (s.after before).run rest := by
  induction before generalizing s with
  | nil => rfl
  | cons op before ih =>
      rw [List.cons_append, run_cons, run_cons, ih]
      rfl

theorem length_run (s : Session) (ops : List Operation) :
    (s.run ops).length = ops.length := by
  induction ops generalizing s with
  | nil => rfl
  | cons op rest ih => rw [run_cons, List.length_cons, ih, List.length_cons]

/-- The answer at a place of a run. -/
theorem getElem?_run (s : Session) (before : List Operation)
    (op : Operation) (rest : List Operation) :
    (s.run (before ++ op :: rest))[before.length]?
      = some ((s.after before).answer op) := by
  have hlength := length_run s before
  rw [run_append, run_cons,
    List.getElem?_append_right (Nat.le_of_eq hlength), hlength, Nat.sub_self]
  rfl

/-- An operation that leaves the session as it is can be taken out of a
run. -/
theorem eraseIdx_run {before : List Operation}
    (h : (s.after before).next op = s.after before)
    (rest : List Operation) :
    (s.run (before ++ op :: rest)).eraseIdx before.length
      = s.run (before ++ rest) := by
  have hlength := length_run s before
  rw [run_append, run_cons, h, run_append,
    List.eraseIdx_append_of_length_le (Nat.le_of_eq hlength), hlength,
    Nat.sub_self]
  rfl

end Session

end Logline
