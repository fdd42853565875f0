/-
Texts in runs. A text that is filled up with many copies of a character
is put together from runs, so that its length is known before it is
written out. A run may be far longer than any text that is written out in
the end; whether there is room for it is a question of its own.
-/
import Logline.Text

namespace Logline

/-- A part of a text: characters, or copies of one. -/
inductive Run where
  | text (t : Text)
  | copies (c : Char) (count : Nat)
  deriving DecidableEq, Repr

namespace Run

/-- The most copies in a run that there is room for. -/
def mostCopies : Nat := 68719476736

/-- The greatest length that is written out. -/
def mostWritten : Nat := 1073741824

/-- The length of a run. -/
def length : Run → Nat
  | text t => t.length
  | copies _ count => count

/-- The characters of a run. -/
def expand : Run → Text
  | text t => t
  | copies c count => List.replicate count c

/-- The run with every character mapped. -/
def map (f : Char → Char) : Run → Run
  | text t => text (t.map f)
  | copies c count => copies (f c) count

/-- The length of runs one after another. -/
def totalLength : List Run → Nat
  | [] => 0
  | r :: rest => r.length + totalLength rest

/-- The characters of runs one after another. -/
def expandAll : List Run → Text
  | [] => []
  | r :: rest => r.expand ++ expandAll rest

end Run

end Logline
