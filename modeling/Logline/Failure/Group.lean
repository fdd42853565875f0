/-
Groups of failures. A group takes a text and its members, which are
failures themselves. No value is a failure, so a group is never made of
values; what is wrong with its arguments is all there is to tell.
-/
import Logline.Failure.Argument

namespace Logline.Failure

/-- The kinds of groups. -/
def groupKinds : List Text := ["BaseExceptionGroup", "ExceptionGroup"]

/-- What takes the arguments of a group. -/
def groupTaker : Text := "BaseExceptionGroup.__new__"

/-- Why some values are not the members of a group. -/
def memberError : Value → ArgumentError
  | .list [] | .text [] => .noMembers
  | .list _ | .text _ => .notFailure 0
  | _ => .notSequence

/-- Looks at the arguments of a group. -/
def checkGroup (arguments : List Value) : Except ArgumentError Unit := do
  match arguments with
  | [said, members] =>
    requireText (some groupTaker) 1 said
    throw (memberError members)
  | _ => throw (.wrongCount (some groupTaker) .exactly 2 arguments.length)

end Logline.Failure
