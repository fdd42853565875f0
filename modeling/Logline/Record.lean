/-
Records. A record is what a program logs: the logger, a numeric severity,
the moment in seconds since Unix time started, a message with arguments,
and, where there are some, a failure and the text of a stack. The text of
the failure is kept in the record once it has been made.

The event of a record is in UTC. Its moment is worked out first and its
message after that, and the first that cannot be had is the error.
-/
import Logline.Failure
import Logline.Message
import Logline.Renderer

namespace Logline

open Calendar Number

/-- Seconds since Unix time started, as a record carries them. -/
inductive Seconds where
  | whole (n : Int)
  | double (d : Binary64)
  deriving DecidableEq, Repr

/-- Why seconds are no moment. -/
inductive MomentError where
  /-- The seconds are not a number. -/
  | notNumber
  /-- The seconds do not fit 64 bits. -/
  | outOfRange
  /-- The year does not fit 32 bits. -/
  | yearTooLarge
  /-- The calendar does not have the year. -/
  | noSuchYear (year : Int)
  deriving DecidableEq, Repr

/-- The wording of seconds that are no moment. -/
def MomentError.message : MomentError → Text
  | notNumber => "Invalid value NaN (not a number)"
  | outOfRange => "timestamp out of range for platform time_t"
  | yearTooLarge =>
    "[Errno 75] Value too large for defined data type"
  | noSuchYear year => "year " ++ Text.ofInt year ++ " is out of range"

namespace Seconds

/-- The microseconds of the seconds, a half to the even one. The fraction
is counted in microseconds as a floating-point number before it is
rounded. -/
def micros : Seconds → Except MomentError Int
  | whole n => .ok (n * 1000000)
  | double .nan => .error .notNumber
  | double d =>
    match d.toFraction? with
    | none => .error .outOfRange
    | some f =>
      let part := (f.minus f.truncate).times 1000000
      .ok (f.truncate * 1000000 + ((Binary64.kept? part).getD part).round)

/-- The moment in UTC. The year, counted from 1900, has to fit 32 bits
before it is looked up in the calendar. A year that the calendar does not
have is told in 32 bits, beyond which it starts again at the least. -/
def moment (s : Seconds) : Except MomentError Timestamp := do
  let micros ← s.micros
  let seconds := micros / 1000000
  if !fitsBits 64 seconds then throw .outOfRange
  match Timestamp.ofInstant micros with
  | .ok timestamp => return timestamp
  | .error year =>
    if !fitsBits 32 (year - 1900) then throw .yearTooLarge
    throw (.noSuchYear (year.bmod (twoTo 32)))

end Seconds

/-- What a record has in the place of a failure. -/
inductive Attachment where
  /-- A failure that is not there. -/
  | blank
  | failure (f : Failure)

/-- The text of what stands in the place of a failure. -/
def Attachment.text : Attachment → Except Failure.TextError Text
  | blank => .ok "NoneType: None"
  | failure f => f.text

/-- What a program logs. -/
structure Record where
  loggerName : Value
  severity : Int
  created : Seconds
  message : Value
  arguments : Arguments
  failure : Option Attachment := none
  /-- The text of the failure, once it has been made. -/
  failureText : Option Text := none
  stack : Option Text := none

/-- Why a record has no event. -/
inductive RecordError where
  | badMoment (why : MomentError)
  | badMessage (why : Message.MessageError)
  deriving DecidableEq, Repr

/-- The wording of a record without an event. -/
def RecordError.message : RecordError → Text
  | badMoment why => why.message
  | badMessage why => why.message

namespace Record

/-- The event of a record. -/
def event (r : Record) : Except RecordError Event := do
  let moment ← r.created.moment.mapError .badMoment
  let level := (Severity.ofNumber r.severity).ordinal
  let text ← (Message.text r.message r.arguments).mapError .badMessage
  return ⟨r.loggerName, moment, .number level, .text text⟩

/-- The text of the failure: the one that is kept, or else the one that
is made of it. Empty text is as good as none. -/
def currentFailureText (r : Record) :
    Except Failure.TextError (Option Text) :=
  match r.failureText, r.failure with
  | some (c :: t), _ => .ok (some (c :: t))
  | kept, none => .ok kept
  | _, some attachment => attachment.text.map some

section FailureText

variable {r : Record}

theorem currentFailureText_of_no_failure (h : r.failure = none) :
    r.currentFailureText = .ok r.failureText := by
  unfold currentFailureText
  rw [h]
  rcases r.failureText with _ | _ | ⟨c, t⟩ <;> rfl

theorem currentFailureText_of_kept (h : r.failureText.getD [] ≠ []) :
    r.currentFailureText = .ok r.failureText := by
  unfold currentFailureText
  rcases hkept : r.failureText with _ | _ | ⟨c, t⟩
  · exact absurd (by rw [hkept]; rfl) h
  · exact absurd (by rw [hkept]; rfl) h
  · rfl

theorem currentFailureText_of_empty {attachment : Attachment}
    (hfailure : r.failure = some attachment)
    (hempty : r.failureText.getD [] = []) :
    r.currentFailureText = attachment.text.map some := by
  unfold currentFailureText
  rw [hfailure]
  rcases hkept : r.failureText with _ | _ | ⟨c, t⟩
  · rfl
  · rfl
  · rw [hkept] at hempty
    cases hempty

end FailureText

end Record

end Logline
