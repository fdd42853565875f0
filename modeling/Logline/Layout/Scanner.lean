/-
The layout scanner. A layout is text with placeholders: `%c` the logger
name, `%p` the level, `%m` the message, `%d` with a date pattern in
braces the timestamp, and `%%` a percent sign.

The scan is a machine of four states that looks at one character at a
time. The scanner holds the state, where the pending run of characters
starts, and the pieces so far. A run is cut out of the layout when it
ends, so a scanner fits only the layout that it has scanned; on another
one the cut is still defined, and empty when its ends are crossed.

A compilation goes from the first character to the last. A single step
may be taken anywhere, and then a position below zero counts from the end
of the layout.
-/
import Logline.Layout.Fault
import Logline.Layout.Template
import Logline.Number.Power

namespace Logline.Layout

/-- What the scanner expects next. -/
inductive State where
  /-- Literal text. -/
  | text
  /-- The letter of a placeholder. -/
  | afterPercent
  /-- The brace that opens a date pattern. -/
  | expectBrace
  /-- The characters of a date pattern. -/
  | insidePattern
  deriving DecidableEq, Repr

/-- A point of the scan. -/
structure Scanner where
  state : State := .text
  start : Int := 0
  pieces : List Piece := []
  deriving DecidableEq, Repr

/-- How many characters of a layout of some length stand before a
position. One below zero counts from the end, and there are none before
those that go back further than the start. -/
def place (length : Nat) (position : Int) : Nat :=
  if position < 0 then (length + position).toNat else position.toNat

/-- The character at a position of the layout. -/
def charAt? (layout : Text) (position : Int) : Option Char :=
  if layout.length + position < 0 then none
  else layout[place layout.length position]?

/-- The characters from one position up to another; none when they are
crossed. -/
def slice (layout : Text) (start stop : Int) : Text :=
  (layout.take (place layout.length stop)).drop
    (place layout.length start)

theorem place_natCast (length n : Nat) : place length n = n := by
  have h : ¬ ((n : Int) < 0) := by omega
  rw [place, if_neg h, Int.toNat_natCast]

theorem charAt?_natCast (layout : Text) (n : Nat) :
    charAt? layout n = layout[n]? := by
  have h : ¬ ((layout.length : Int) + n < 0) := by omega
  rw [charAt?, if_neg h, place_natCast]

theorem slice_natCast (layout : Text) (start stop : Nat) :
    slice layout start stop = (layout.take stop).drop start := by
  rw [slice, place_natCast, place_natCast]

/-- The placeholders that are one letter. -/
def placeholder? : Char → Option Kind
  | 'c' => some .loggerName
  | 'p' => some .level
  | 'm' => some .message
  | _ => none

/-- Why a single step is refused. -/
inductive StepError where
  /-- There is no character at the position. -/
  | pastEnd
  /-- The position does not fit 64 bits. -/
  | outOfRange
  | fault (fault : Fault)
  deriving DecidableEq, Repr

namespace Scanner

/-- Moves over the character `ch` that stands at position `i`. The second
percent sign of a pair starts the next literal run. -/
def advance (s : Scanner) (layout : Text) (i : Int) (ch : Char) :
    Except Fault Scanner :=
  match s.state with
  | .text =>
    if ch = '%' then
      .ok ⟨.afterPercent, s.start, addText s.pieces (slice layout s.start i)⟩
    else .ok s
  | .afterPercent =>
    if ch = '%' then .ok ⟨.text, i, s.pieces⟩
    else if ch = 'd' then .ok ⟨.expectBrace, i + 1, s.pieces⟩
    else
      match placeholder? ch with
      | some kind => .ok ⟨.text, i + 1, addPlaceholder s.pieces kind []⟩
      | none => .error (.unknownIdentifier ch i)
  | .expectBrace =>
    if ch = '\x7b' then .ok ⟨.insidePattern, i + 1, s.pieces⟩
    else .error (.expectedBrace ch i)
  | .insidePattern =>
    if ch = '\x7d' then
      .ok ⟨.text, i + 1,
        addPlaceholder s.pieces .timestamp (slice layout s.start i)⟩
    else .ok s

/-- Moves over the character at a position of the layout. -/
def step (s : Scanner) (layout : Text) (i : Int) :
    Except StepError Scanner :=
  match charAt? layout i with
  | none => .error (if Number.fitsBits 64 i then .pastEnd else .outOfRange)
  | some ch => (s.advance layout i ch).mapError .fault

/-- Ends the scan: the pending literal run becomes a piece, and an open
placeholder is a fault. -/
def finish (s : Scanner) (layout : Text) : Except Fault Template :=
  match s.state with
  | .text =>
    .ok ⟨addText s.pieces (slice layout s.start layout.length), layout⟩
  | .afterPercent => .error (.endsAfterPercent layout.length)
  | .expectBrace => .error (.endsBeforeBrace layout.length)
  | .insidePattern => .error (.endsInsidePattern s.start layout.length)

/-- Moves over all characters of the layout, from the first. -/
def run (layout : Text) : Except Fault Scanner :=
  layout.zipIdx.foldlM (fun s (ch, i) => s.advance layout i ch) {}

end Scanner

/-- Compiles a layout. There is a template only when the whole layout
follows the grammar. -/
def compile (layout : Text) : Except Fault Template := do
  let s ← Scanner.run layout
  s.finish layout

end Logline.Layout
