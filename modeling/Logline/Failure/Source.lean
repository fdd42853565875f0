/-
Failures of reading source text. They say what is wrong, and may point to
a place in the source: a file, a line, the text of the line, and the
columns from which and up to which it is wrong. Columns are counted from
one.

The line is shown without the blanks in front of it, and below it marks
stand under the columns. Marks that would stand left of what is shown are
left out. The parts of a place are values of any kind, and a place whose
text is not a text, or whose columns are not integers, cannot be shown.
-/
import Logline.Failure.Argument
import Logline.Text.Blank
import Logline.Text.Run
import Logline.Value.Display

namespace Logline.Failure

open Number

/-- The kinds of failures of reading source text. -/
def sourceKinds : List Text :=
  ["SyntaxError", "IndentationError", "TabError"]

/-- A place in a source text. -/
structure SourcePlace where
  file : Value
  line : Value
  column : Value
  text : Value
  endColumn : Value

/-- Why a place cannot be shown. The kind is that of the value to blame. -/
inductive PlaceError where
  /-- The text of the line is not a text. -/
  | textNotText (kindName : Text)
  /-- The end column is a list or an object. -/
  | endNotPlain (kindName : Text)
  /-- The column is no number, and the end column would be the next. -/
  | noNextColumn (kindName : Text)
  /-- A column is no number. -/
  | columnNotNumber (kindName : Text)
  /-- The column is not an integer. -/
  | columnNotWhole
  /-- The end column is not an integer. -/
  | endNotWhole
  /-- The end column is not an integer, and the column is larger than any
  number of its kind. -/
  | columnTooLarge
  /-- The number of marks does not fit 64 bits. -/
  | markCountOutOfRange
  /-- There is no room for so many marks. -/
  | tooManyMarks
  deriving DecidableEq, Repr

/-- The wording of a place that cannot be shown. -/
def PlaceError.message : PlaceError → Text
  | textNotText kindName => Value.missingMessage kindName "rstrip"
  | endNotPlain kindName => "unhashable type: '" ++ kindName ++ "'"
  | noNextColumn kindName =>
    if kindName = ("dict" : Text) then
      "unsupported operand type(s) for +: 'dict' and 'int'"
    else
      "can only concatenate " ++ kindName ++ " (not \"int\") to " ++ kindName
  | columnNotNumber kindName =>
    "unsupported operand type(s) for -: '" ++ kindName ++ "' and 'int'"
  | columnNotWhole =>
    "slice indices must be integers or None or have an __index__ method"
  | endNotWhole => "can't multiply sequence by non-int of type 'float'"
  | columnTooLarge => "int too large to convert to float"
  | markCountOutOfRange => "cannot fit 'int' into an index-sized integer"
  | tooManyMarks => []

-- =========================================================== arguments

/-- The members that a value lists: those of a list, the characters of a
text, the keys of an object. -/
def members? : Value → Option (List Value)
  | .list items => some items
  | .text t => some (t.map fun c => .text [c])
  | .object fields => some (fields.map fun field => .text field.1)
  | _ => none

/-- Looks at the arguments of a failure of reading source text. The
second of two is a place of four parts, or of six with the end. -/
def checkSource (arguments : List Value) : Except ArgumentError Unit :=
  match arguments with
  | [_, place] =>
    match members? place with
    | none => .error (.notListing place.kindName)
    | some parts =>
      if parts.length < 4 then
        .error (.wrongCount none .atLeast 4 parts.length)
      else if 6 < parts.length then
        .error (.wrongCount none .atMost 6 parts.length)
      else if parts.length = 5 then .error .noEndColumn
      else .ok ()
  | _ => .ok ()

namespace SourcePlace

/-- The place that the arguments of a failure point to. -/
def ofArguments? (arguments : List Value) : Option SourcePlace :=
  match arguments with
  | [_, place] =>
    match members? place with
    | some [file, line, column, text] =>
      some ⟨file, line, column, text, .null⟩
    | some [file, line, column, text, _, endColumn] =>
      some ⟨file, line, column, text, endColumn⟩
    | _ => none
  | _ => none

-- ============================================================= columns

/-- A column: an integer or a floating-point number. -/
inductive Column where
  | whole (n : Int)
  | real (d : Binary64)
  deriving DecidableEq

namespace Column

/-- The column that a value is. -/
def ofValue? (v : Value) : Option Column :=
  match v with
  | .double d => some (real d)
  | _ => v.toInt?.map whole

/-- Are two columns the same? What is no number is not even itself. -/
def same : Column → Column → Bool
  | whole m, whole n => m = n
  | whole m, real d | real d, whole m =>
    d.toFraction?.any fun f => f.num = m * f.den
  | real c, real d =>
    match c.toFraction?, d.toFraction? with
    | some f, some g => f.num * g.den = g.num * f.den
    | _, _ =>
      match c, d with
      | .infinite m, .infinite n => m = n
      | _, _ => false

/-- Does a column come before an integer one? -/
def isBefore (n : Int) : Column → Bool
  | whole m => m < n
  | real (.infinite negative) => negative
  | real .nan => true
  | real d => d.toFraction?.any fun f => f.num < n * f.den

end Column

/-- Do two values stand for the same column? -/
def sameColumn (a b : Value) : Bool :=
  match Column.ofValue? a, Column.ofValue? b with
  | some x, some y => x.same y
  | none, none =>
    match a, b with
    | .text s, .text t => s = t
    | .list _, .list _ | .object _, .object _ => true
    | _, _ => false
  | _, _ => false

/-- The end column as it counts: when there is none, or it is zero, the
column itself stands in for it. -/
def endOf (column endColumn : Value) : Value :=
  match endColumn with
  | .null => column
  | v => if sameColumn v (.int 0) then column else v

/-- The column, and the end column unless it is the next one. It is the
next one when it is the column itself, and when it is one below zero. -/
def columns (column endColumn : Value) :
    Except PlaceError (Column × Option Column) :=
  match endColumn with
  | .list _ | .object _ => .error (.endNotPlain endColumn.kindName)
  | _ =>
    let stop := endOf column endColumn
    if sameColumn column stop || sameColumn stop (.int (-1)) then
      match Column.ofValue? column with
      | none => .error (.noNextColumn column.kindName)
      | some c => .ok (c, none)
    else
      match Column.ofValue? column, Column.ofValue? stop with
      | none, _ => .error (.columnNotNumber column.kindName)
      | _, none => .error (.columnNotNumber stop.kindName)
      | some c, some e => .ok (c, some e)

-- ============================================================= showing

/-- The text of the line as it is shown, and how many characters are cut
off in front. Line breaks at the end go, and so do blanks, line breaks
and form feeds at the start. -/
def trimmedLine (t : Text) : Text × Nat :=
  let kept := (t.reverse.dropWhile (· = '\n')).reverse
  let shown := kept.dropWhile fun c => c = ' ' || c = '\n' || c = '\x0c'
  (shown, kept.length - shown.length)

/-- The indentation of what is shown. -/
def indent : Text := "    "

/-- The number of marks from a column on, which is so far behind the
left of what is shown, up to the end column. -/
def markCount (column behind : Int) (endColumn : Option Column) :
    Except PlaceError Nat :=
  match endColumn with
  | none => .ok 1
  | some (.whole stop) =>
    if !fitsBits 64 (stop - column) then .error .markCountOutOfRange
    else if (Run.mostCopies : Int) < stop - column then
      .error .tooManyMarks
    else .ok (stop - column).toNat
  | some (.real _) =>
    if (Binary64.ofInt behind).toFraction?.isNone then
      .error .columnTooLarge
    else .error .endNotWhole

/-- Marks below a shown line: blanks up to a place, and so many marks.
Blanks of the line itself stay what they are. -/
def marks (shown : Text) (place count : Nat) : List Run :=
  let blanks := (shown.take place).map fun c =>
    if Text.isBlank c then c else ' '
  [.text (indent ++ blanks), .copies '^' count, .text "\n"]

/-- The line of marks under the columns, for a line of which some
characters are cut off in front. -/
def markLine (shown : Text) (cut : Nat) (column endColumn : Value) :
    Except PlaceError (List Run) := do
  let (first, last) ← columns column endColumn
  let leftmost : Int := 1 + cut
  if first.isBefore leftmost then return []
  match first with
  | .real _ => throw .columnNotWhole
  | .whole n =>
    let count ← markCount n (n - leftmost) last
    return marks shown (n - leftmost).toNat count

/-- The lines above what is wrong: where it is, the line of the source,
and the marks. -/
def lines (p : SourcePlace) : Except PlaceError (List Run) := do
  let place : Text :=
    match p.line with
    | .null => []
    | line =>
      "  File \"" ++
        (if p.file.saysAnything then p.file.display else "<string>") ++
        "\", line " ++ line.display ++ "\n"
  match p.text with
  | .null => return [.text place]
  | .text t =>
    let (shown, cut) := trimmedLine t
    let source : Run := .text (place ++ indent ++ shown ++ "\n")
    match p.column with
    | .null => return [source]
    | column =>
      return source :: (← markLine shown cut column p.endColumn)
  | other => throw (.textNotText other.kindName)

/-- What follows the wording: the file, when there is no line to name it
with. -/
def ending (p : SourcePlace) : Text :=
  match p.line, p.file with
  | .null, .null => []
  | .null, file => " (" ++ file.display ++ ")"
  | _, _ => []

end SourcePlace

/-- What is wrong with the source text. -/
def sourceDetail (arguments : List Value) : Text :=
  match arguments.head? with
  | some value =>
    if value.saysAnything then value.display else "<no detail available>"
  | none => "<no detail available>"

/-- The text of a failure of reading source text. -/
def sourceText (kind : Text) (arguments : List Value) :
    Except PlaceError (List Run) := do
  let said := kind ++ ": " ++ sourceDetail arguments
  match SourcePlace.ofArguments? arguments with
  | none => return [.text said]
  | some place =>
    return (← place.lines) ++ [.text (said ++ place.ending)]

end Logline.Failure
