/-
Directive patterns. A date pattern of this vocabulary is text with
directives: a percent sign, flags, a width, a variant letter and a
conversion letter, of which only the first and the last are needed. So
`%Y-%m-%d` is a date, and `%-5d` a day in five places.

A pattern is read twice. The first reading puts in the offset, the zone's
name and the microseconds, for the three directives that consist of two
characters and nothing else. The second reads all other directives. What
it does not know it copies, filled up to the width like any word.

Names are English. The year is not filled with zeros, so the year 987 has
three digits. A zone directive that the first reading left alone shows no
zone.

A pattern has room for a limited number of characters, which grows with
its own length. A result that does not fit is replaced by the empty text.
-/
import Logline.Calendar.Timestamp
import Logline.Text.Case

namespace Logline.Calendar

-- ================================================== the first reading

/-- The text between percent signs doubled: each stands for itself when
it is read as a pattern. -/
def doublePercents (t : Text) : Text :=
  t.flatMap fun c => if c = '%' then ['%', '%'] else [c]

/-- The offset as a directive shows it; nothing without a zone. -/
def offsetField (t : Timestamp) : Text :=
  match t.zone with
  | none => []
  | some zone => offsetText [] zone.offset

/-- The zone's name; nothing without a zone. -/
def zoneField (t : Timestamp) : Text :=
  match t.zone with
  | none => []
  | some zone => zone.name

/-- Puts in the offset, the zone's name and the microseconds. -/
def putZones (t : Timestamp) : Text → Text
  | [] => []
  | '%' :: c :: rest =>
    (if c = 'z' then offsetField t
     else if c = 'Z' then doublePercents (zoneField t)
     else if c = 'f' then Text.zeroPadded 6 t.clock.micro
     else ['%', c]) ++ putZones t rest
  | c :: rest => c :: putZones t rest

-- ========================================================== directives

/-- A directive: what stands between the percent sign and the end of the
conversion letter. A pattern that ends early leaves the letter out. -/
structure Directive where
  flags : Text
  width : Text
  variant : Option Char
  conversion : Option Char
  deriving DecidableEq

/-- The flags of a directive. -/
def isFlag (c : Char) : Bool :=
  ['_', '-', '0', '^', '#'].contains c

/-- The letters that ask for a variant of a field. -/
def isVariant (c : Char) : Bool :=
  c = 'E' || c = 'O'

namespace Directive

/-- The directive whose percent sign has just been read, and the text
after it. -/
def read (t : Text) : Directive × Text :=
  let afterFlags := t.dropWhile isFlag
  let afterWidth := afterFlags.dropWhile Char.isDigit
  let afterVariant := if (afterWidth.head?.any isVariant) then
    afterWidth.tail else afterWidth
  (⟨t.takeWhile isFlag, afterFlags.takeWhile Char.isDigit,
    afterWidth.head?.filter isVariant, afterVariant.head?⟩,
   afterVariant.tail)

/-- The directive as it was written. -/
def written (d : Directive) : Text :=
  '%' :: d.flags ++ d.width ++ d.variant.toList ++ d.conversion.toList

theorem length_read_le (t : Text) : (read t).2.length ≤ t.length := by
  have h₁ : (t.dropWhile isFlag).length ≤ t.length :=
    (List.dropWhile_suffix _).length_le
  have h₂ : ((t.dropWhile isFlag).dropWhile Char.isDigit).length
      ≤ (t.dropWhile isFlag).length :=
    (List.dropWhile_suffix _).length_le
  simp only [read]
  split
  · simp only [List.length_tail]
    omega
  · simp only [List.length_tail]
    omega

end Directive

-- ============================================================== fields

/-- What a conversion letter shows. -/
inductive Field where
  /-- A number in at least so many places, filled with zeros. -/
  | number (places value : Nat)
  /-- A number in at least so many places, filled with blanks. -/
  | blankNumber (places value : Nat)
  /-- A word, and the word that the swapping flag puts in its place. -/
  | word (plain : Text) (swapped : Option Text)
  /-- A word in small letters, whatever the flags. -/
  | small (plain : Text)
  /-- Nothing, whatever the width. -/
  | nothing
  deriving DecidableEq

/-- The variants that a conversion takes, of the two letters `E` and
`O`. They change nothing else. -/
structure Variants where
  era : Bool
  digits : Bool
  deriving DecidableEq

/-- Does the conversion take the variant? -/
def Variants.allow (v : Variants) : Option Char → Bool
  | none => true
  | some c => if c = 'E' then v.era else v.digits

/-- Hours, minutes and seconds on a clock of twenty-four hours. -/
def clockText (c : Clock) : Text :=
  Text.zeroPadded 2 c.hour ++ ":" ++ Text.zeroPadded 2 c.minute ++ ":" ++
    Text.zeroPadded 2 c.second

/-- Month, day and the last two digits of the year. -/
def slashDate (d : Date) : Text :=
  Text.zeroPadded 2 d.month ++ "/" ++ Text.zeroPadded 2 d.day ++ "/" ++
    Text.zeroPadded 2 (d.year % 100)

/-- The half of the day. -/
def halfDay (c : Clock) : Text :=
  if c.isAfternoon then "PM" else "AM"

/-- Weekday, month, day, time and year. -/
def longText (d : Date) (c : Clock) : Text :=
  d.weekdayName.take 3 ++ " " ++ d.monthName.take 3 ++ " " ++
    Text.blankPadded 2 d.day ++ " " ++ clockText c ++ " " ++
    Text.ofNat d.year

/-- The field of a conversion letter, with the variants that it takes. -/
def field? (t : Timestamp) (conversion : Char) : Option (Variants × Field) :=
  let d := t.date
  let c := t.clock
  let plain : Variants := ⟨false, false⟩
  let era : Variants := ⟨true, false⟩
  let digits : Variants := ⟨false, true⟩
  let any : Variants := ⟨true, true⟩
  match conversion with
  | '%' => some (any, .word "%" none)
  | 'a' => some (plain, .word (d.weekdayName.take 3)
      (some (Text.upper (d.weekdayName.take 3))))
  | 'A' => some (plain, .word d.weekdayName
      (some (Text.upper d.weekdayName)))
  | 'b' | 'h' => some (digits, .word (d.monthName.take 3)
      (some (Text.upper (d.monthName.take 3))))
  | 'B' => some (digits, .word d.monthName
      (some (Text.upper d.monthName)))
  | 'c' => some (era, .word (longText d c) none)
  | 'C' => some (any, .number 1 (d.year / 100))
  | 'd' => some (digits, .number 2 d.day)
  | 'D' => some (plain, .word (slashDate d) none)
  | 'e' => some (digits, .blankNumber 2 d.day)
  | 'F' => some (plain, .word (Text.ofNat d.year ++ "-" ++
      Text.zeroPadded 2 d.month ++ "-" ++ Text.zeroPadded 2 d.day) none)
  | 'g' => some (digits, .number 2 (d.weekDate.1.toNat % 100))
  | 'G' => some (digits, .number 1 d.weekDate.1.toNat)
  | 'H' => some (digits, .number 2 c.hour)
  | 'I' => some (digits, .number 2 c.dialHour)
  | 'j' => some (digits, .number 3 (d.yearDay + 1))
  | 'k' => some (digits, .blankNumber 2 c.hour)
  | 'l' => some (digits, .blankNumber 2 c.dialHour)
  | 'm' => some (digits, .number 2 d.month)
  | 'M' => some (digits, .number 2 c.minute)
  | 'n' => some (any, .word "\n" none)
  | 'p' => some (any, .word (halfDay c) (some (Text.lower (halfDay c))))
  | 'P' => some (any, .small (Text.lower (halfDay c)))
  | 'r' => some (any, .word (Text.zeroPadded 2 c.dialHour ++ ":" ++
      Text.zeroPadded 2 c.minute ++ ":" ++ Text.zeroPadded 2 c.second ++
      " " ++ halfDay c) none)
  | 'R' => some (any, .word (Text.zeroPadded 2 c.hour ++ ":" ++
      Text.zeroPadded 2 c.minute) none)
  | 's' => some (any, .word (Text.ofInt t.wallSeconds) none)
  | 'S' => some (digits, .number 2 c.second)
  | 't' => some (any, .word "\t" none)
  | 'T' => some (any, .word (clockText c) none)
  | 'u' => some (any, .number 1 (d.weekday + 1))
  | 'U' => some (digits, .number 2 d.sundayWeek)
  | 'V' => some (digits, .number 2 d.weekDate.2)
  | 'w' => some (digits, .number 1 ((d.weekday + 1) % 7))
  | 'W' => some (digits, .number 2 d.mondayWeek)
  | 'x' => some (era, .word (slashDate d) none)
  | 'X' => some (era, .word (clockText c) none)
  | 'y' => some (any, .number 2 (d.year % 100))
  | 'Y' => some (era, .number 1 d.year)
  | 'z' => some (any, .nothing)
  | 'Z' => some (any, .word [] none)
  | _ => none

-- ================================================== the second reading

/-- The fill that the flags ask for: the last of the three counts. -/
def fillFlag (flags : Text) : Option Char :=
  (flags.filter fun c => c = '_' || c = '-' || c = '0').getLast?

/-- The width that a directive asks for. One that no result can fill is
cut down to the room there is, where the result does not fit either. -/
def Directive.fieldWidth (d : Directive) (room : Nat) : Nat :=
  min (Text.toNat d.width) room

/-- A word filled up to its width: with zeros if the flags say so, else
with blanks. -/
def fillWord (d : Directive) (room : Nat) (t : Text) : Text :=
  t.leftpad (d.fieldWidth room)
    (if fillFlag d.flags = some '0' then '0' else ' ')

/-- A number in its places. With the flag against filling only the width
is filled, and with blanks. -/
def fillNumber (d : Directive) (room places value : Nat) (blank : Bool) :
    Text :=
  let width := d.fieldWidth room
  match fillFlag d.flags with
  | some '0' => (Text.ofNat value).leftpad (max places width) '0'
  | some '-' => (Text.ofNat value).leftpad width ' '
  | some _ => (Text.ofNat value).leftpad (max places width) ' '
  | none =>
    (Text.ofNat value).leftpad (max places width) (if blank then ' ' else '0')

/-- The word in capitals if the flags ask for them. -/
def capitals (d : Directive) (t : Text) : Text :=
  if d.flags.contains '^' then t.map Text.capital else t

/-- Are the short names of months asked for, with the flag that puts
them in capitals? It holds for the directive as written too, where a
variant is not taken. -/
def Directive.swapsMonth (d : Directive) : Bool :=
  d.flags.contains '#' && (d.conversion = some 'b' || d.conversion = some 'h')

/-- A directive shown as it was written. -/
def Directive.copied (d : Directive) (room : Nat) : Text :=
  fillWord d room
    (if d.swapsMonth then d.written.map Text.capital
     else capitals d d.written)

/-- What a directive shows. One that is not known shows as written. A
zone directive that is read here shows an empty word, and that is filled
up to its width even with the flag against filling: `%-5Z` shows five
blanks. -/
def Directive.show (d : Directive) (t : Timestamp) (room : Nat) : Text :=
  match d.conversion.bind (field? t) with
  | none => d.copied room
  | some (variants, field) =>
    if variants.allow d.variant then
      match field with
      | .number places value => fillNumber d room places value false
      | .blankNumber places value => fillNumber d room places value true
      | .word plain swapped =>
        match swapped with
        | some other =>
          if d.flags.contains '#' then fillWord d room other
          else fillWord d room (capitals d plain)
        | none => fillWord d room (capitals d plain)
      | .small plain => fillWord d room plain
      | .nothing => []
    else d.copied room

/-- Reads the directives of a pattern and copies all other text. -/
def showDirectives (t : Timestamp) (room : Nat) (pattern : Text) : Text :=
  match pattern with
  | [] => []
  | c :: rest =>
    if c = '%' then
      (Directive.read rest).1.show t room ++
        showDirectives t room (Directive.read rest).2
    else c :: showDirectives t room rest
termination_by pattern.length
decreasing_by
  · have := Directive.length_read_le rest
    simp only [List.length_cons]
    omega
  · simp

-- ================================================================ room

/-- Doubles a size until it reaches a goal. -/
def doubleUpTo (goal size : Nat) (h : 0 < size) : Nat :=
  if goal ≤ size then size else doubleUpTo goal (size * 2) (by omega)
termination_by goal - size

/-- The room for the result of a pattern: 1024 characters, doubled until
there are 256 for each character of the pattern. One of them is never
used. -/
def room (pattern : Text) : Nat :=
  doubleUpTo (256 * pattern.length) 1024 (by decide)

/-- A timestamp written by a directive pattern. A null character is
copied like any other; that it may end the pattern is left out. -/
def formatDirectives (t : Timestamp) (pattern : Text) : Text :=
  let directives := putZones t pattern
  let result := showDirectives t (room directives) directives
  if result.length < room directives then result else []

end Logline.Calendar
