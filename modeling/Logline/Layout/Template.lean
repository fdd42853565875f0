/-
Templates. A layout is compiled into a template: the list of its pieces,
each a literal text or a placeholder for one field of the event. The
template keeps the layout it came from.

A compiled template never has an empty literal or two literals side by
side: `add` drops the first and merges the second. A template put
together by hand may hold anything, a piece of an unknown kind included;
it is the renderer that refuses such a piece.
-/
import Logline.Text

namespace Logline.Layout

/-- What a piece stands for when it is rendered. -/
inductive Kind where
  | text
  | loggerName
  | timestamp
  | level
  | message
  /-- A kind that no renderer knows. -/
  | other (name : Text)
  deriving DecidableEq, Repr

namespace Kind

/-- The name of a kind in listings. -/
def name : Kind → Text
  | text => "text"
  | loggerName => "logger_name"
  | timestamp => "timestamp"
  | level => "level"
  | message => "message"
  | other name => name

/-- The kind with a given name. -/
def ofName (name : Text) : Kind :=
  if name = Kind.text.name then text
  else if name = loggerName.name then loggerName
  else if name = timestamp.name then timestamp
  else if name = level.name then level
  else if name = message.name then message
  else other name

theorem name_ofName (name : Text) : (ofName name).name = name := by
  unfold ofName
  split
  · simp_all
  split
  · simp_all
  split
  · simp_all
  split
  · simp_all
  split
  · simp_all
  · rfl

end Kind

/-- One fragment of a layout. The payload is the literal text, or the
date pattern of a timestamp; the other kinds have none. -/
structure Piece where
  kind : Kind
  payload : Text := []
  deriving DecidableEq, Repr

/-- The compiled form of a layout. -/
structure Template where
  pieces : List Piece := []
  layout : Text := []
  deriving DecidableEq, Repr

/-- Adds literal text at the end of a piece list: nothing when it is
empty, and joined to a literal that already ends the list. -/
def addText (pieces : List Piece) (t : Text) : List Piece :=
  if t = [] then pieces
  else
    match pieces.getLast? with
    | some ⟨.text, before⟩ => pieces.dropLast ++ [⟨.text, before ++ t⟩]
    | _ => pieces ++ [⟨.text, t⟩]

/-- Adds a placeholder at the end of a piece list. -/
def addPlaceholder (pieces : List Piece) (kind : Kind) (pattern : Text) :
    List Piece :=
  pieces ++ [⟨kind, pattern⟩]

theorem addText_nil (pieces : List Piece) : addText pieces [] = pieces := by
  simp [addText]

end Logline.Layout
