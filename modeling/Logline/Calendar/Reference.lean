/-
Reference patterns. A date pattern of this vocabulary is written as one
moment would look: Monday, the second of January 2006, at 15:04:05 in
mountain standard time, seven hours west of Greenwich. So `2006-01-02` is
a date and `3:04 PM` a time.

A pattern is split into tokens and literal text. At each place the
longest word of the table counts, and a fraction counts when no decimal
digit follows it: a point and zeros, or a point and nines. Where nothing
matches, the character is literal.
-/
import Logline.Calendar.Timestamp
import Logline.Text.Digit

namespace Logline.Calendar

/-- How an offset is laid out. -/
inductive OffsetForm where
  /-- Hours, colon, minutes. -/
  | colon
  /-- Hours and minutes. -/
  | plain
  /-- Hours alone. -/
  | hours
  deriving DecidableEq, Repr

/-- A part of the moment that a pattern can name. -/
inductive Token where
  | monthName
  | monthShort
  | weekdayName
  | weekdayShort
  | zoneName
  | year
  | yearShort
  | monthTwo
  | month
  | dayTwo
  | dayBlank
  | day
  | hour
  | dialTwo
  | dial
  | minuteTwo
  | minute
  | secondTwo
  | second
  | halfUpper
  | halfLower
  /-- An offset, where `zulu` shows none as the letter Z. -/
  | offset (zulu : Bool) (form : OffsetForm)
  /-- A fraction of so many places, with its last zeros or without. -/
  | fraction (trimmed : Bool) (places : Nat)
  deriving DecidableEq, Repr

namespace Token

/-- The words that name parts of the moment. Of two words that start
alike, the longer stands first. -/
def words : List (Text × Token) := [
  ("January", monthName),
  ("Jan", monthShort),
  ("Monday", weekdayName),
  ("Mon", weekdayShort),
  ("MST", zoneName),
  ("2006", year),
  ("Z07:00", offset true .colon),
  ("Z0700", offset true .plain),
  ("Z07", offset true .hours),
  ("-07:00", offset false .colon),
  ("-0700", offset false .plain),
  ("-07", offset false .hours),
  ("_2", dayBlank),
  ("01", monthTwo),
  ("02", dayTwo),
  ("03", dialTwo),
  ("04", minuteTwo),
  ("05", secondTwo),
  ("06", yearShort),
  ("15", hour),
  ("PM", halfUpper),
  ("pm", halfLower),
  ("1", month),
  ("2", day),
  ("3", dial),
  ("4", minute),
  ("5", second)]

/-- How many of the same character a text starts with. -/
def runLength (c : Char) (t : Text) : Nat :=
  (t.takeWhile (· = c)).length

/-- The fraction that a text starts with: a point, a run of one digit,
and no decimal digit of any script after it. -/
def fraction? (t : Text) : Option (Token × Nat) :=
  match t with
  | '.' :: c :: rest =>
    let count := 1 + runLength c rest
    if (c = '0' || c = '9') &&
        !((rest.dropWhile (· = c)).head?.any Text.isDecimalDigit) then
      some (fraction (c = '9') count, 1 + count)
    else none
  | _ => none

/-- The word of the table that a text starts with. -/
def word? (t : Text) : Option (Token × Nat) :=
  (words.find? fun entry => t.startsWith entry.1).map
    fun entry => (entry.2, entry.1.length)

/-- The token that a text starts with, and its length. -/
def read? (t : Text) : Option (Token × Nat) :=
  match fraction? t with
  | some found => some found
  | none => word? t

/-- The word that names a token in a pattern. -/
def word : Token → Text
  | fraction trimmed places =>
    '.' :: List.replicate places (if trimmed then '9' else '0')
  | token =>
    match words.find? fun entry => entry.2 = token with
    | some entry => entry.1
    | none => []

theorem length_pos_of_mem_words {entry : Text × Token}
    (h : entry ∈ words) : 0 < entry.1.length := by
  revert entry
  decide

/-- A token that is read has a character or more. -/
theorem read?_length_pos {t : Text} {token : Token} {n : Nat}
    (h : read? t = some (token, n)) : 0 < n := by
  unfold read? at h
  split at h
  · rename_i found hfound
    unfold fraction? at hfound
    split at hfound
    · simp only at hfound
      split at hfound
      · cases hfound
        cases h
        omega
      · cases hfound
    · cases hfound
  · obtain ⟨entry, hentry, heq⟩ := Option.map_eq_some_iff.1 h
    cases heq
    exact length_pos_of_mem_words (List.mem_of_find?_eq_some hentry)

end Token

/-- A part of a split pattern. -/
inductive Chunk where
  | literal (t : Text)
  | token (token : Token)
  deriving DecidableEq, Repr

/-- The chunk as it stands in the pattern. -/
def Chunk.text : Chunk → Text
  | literal t => t
  | token found => found.word

/-- Adds a literal character in front, to a literal that starts there. -/
def consLiteral (c : Char) : List Chunk → List Chunk
  | .literal t :: rest => .literal (c :: t) :: rest
  | chunks => .literal [c] :: chunks

/-- Splits a pattern into tokens and literal text. -/
def split (pattern : Text) : List Chunk :=
  match pattern with
  | [] => []
  | c :: rest =>
    match _h : Token.read? (c :: rest) with
    | some (found, n) => .token found :: split ((c :: rest).drop n)
    | none => consLiteral c (split rest)
termination_by pattern.length
decreasing_by
  · have := Token.read?_length_pos ‹_›
    simp only [List.length_drop, List.length_cons]
    omega
  · simp

-- ======================================================= showing tokens

/-- Hours and minutes of an offset, seconds dropped. -/
def showOffset (form : OffsetForm) (offset : Int) : Text :=
  let minutes := offset.natAbs / 60000000
  let hours := offsetSign offset :: Text.zeroPadded 2 (minutes / 60)
  match form with
  | .colon => hours ++ ":" ++ Text.zeroPadded 2 (minutes % 60)
  | .plain => hours ++ Text.zeroPadded 2 (minutes % 60)
  | .hours => hours

/-- Is there no whole minute between the offset and UTC? -/
def isZulu (offset : Int) : Bool :=
  offset.natAbs / 60000000 = 0

/-- The offset from UTC; a timestamp without a zone counts as UTC. -/
def Timestamp.offset (t : Timestamp) : Int :=
  match t.zone with
  | none => 0
  | some zone => zone.offset

/-- The zone's abbreviation: its name, or its offset when the name is
only the distance from UTC. -/
def showZoneName (t : Timestamp) : Text :=
  let name : Text :=
    match t.zone with
    | none => "UTC"
    | some zone => if zone.name = [] then "UTC" else zone.name
  if name.startsWith "UTC" && name ≠ ("UTC" : Text) then
    showOffset .plain t.offset
  else name

/-- The nine places after the point that a clock can show, cut to some,
with the zeros at the end or without. -/
def showFraction (trimmed : Bool) (places micro : Nat) : Text :=
  let digits := (Text.zeroPadded 9 (micro * 1000)).take places
  if trimmed then
    let kept := (digits.reverse.dropWhile (· = '0')).reverse
    if kept = [] then [] else '.' :: kept
  else '.' :: digits

/-- What a token shows of a timestamp. -/
def Token.show (t : Timestamp) : Token → Text
  | monthName => t.date.monthName
  | monthShort => t.date.monthName.take 3
  | weekdayName => t.date.weekdayName
  | weekdayShort => t.date.weekdayName.take 3
  | zoneName => showZoneName t
  | year => Text.zeroPadded 4 t.date.year
  | yearShort => Text.zeroPadded 2 (t.date.year % 100)
  | monthTwo => Text.zeroPadded 2 t.date.month
  | month => Text.ofNat t.date.month
  | dayTwo => Text.zeroPadded 2 t.date.day
  | dayBlank => Text.blankPadded 2 t.date.day
  | day => Text.ofNat t.date.day
  | hour => Text.zeroPadded 2 t.clock.hour
  | dialTwo => Text.zeroPadded 2 t.clock.dialHour
  | dial => Text.ofNat t.clock.dialHour
  | minuteTwo => Text.zeroPadded 2 t.clock.minute
  | minute => Text.ofNat t.clock.minute
  | secondTwo => Text.zeroPadded 2 t.clock.second
  | second => Text.ofNat t.clock.second
  | halfUpper => if t.clock.isAfternoon then "PM" else "AM"
  | halfLower => if t.clock.isAfternoon then "pm" else "am"
  | offset zulu form =>
    if zulu && isZulu t.offset then "Z" else showOffset form t.offset
  | fraction trimmed places => showFraction trimmed places t.clock.micro

/-- What a chunk shows of a timestamp: a literal shows itself. -/
def Chunk.show (t : Timestamp) : Chunk → Text
  | literal text => text
  | token found => found.show t

/-- A timestamp written by a reference pattern. -/
def formatReference (t : Timestamp) (pattern : Text) : Text :=
  (split pattern).flatMap (Chunk.show t)

end Logline.Calendar
