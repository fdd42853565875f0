/-
Timestamps read from what callers write. A text is read as a day, or as
a day and a time with a fraction and a zone where they are given; failing
that, a text that is a number is read like the number. Nothing may stand
before or after.

A number counts seconds since Unix time started, or milliseconds when it
is too large to be seconds. Numbers are kept to the microsecond, and a
number below zero is a whole number and something more, like any other.
All days of the years from zero to 9999 can be written either way; year
zero is refused only afterwards, because the calendar starts with year
one.
-/
import Logline.Calendar.Timestamp
import Logline.Number.Binary64

namespace Logline.Calendar

open Number

/-- Why a value is not read as a timestamp. -/
inductive TimestampError where
  /-- The value is neither a text nor a number. -/
  | wrongKind
  /-- The text has none of the forms. -/
  | unreadable
  /-- The number is out of range, or the year is zero. -/
  | outOfRange
  deriving DecidableEq, Repr

-- ======================================================= days and times

/-- A number of exactly so many decimal digits, and the rest. -/
def readDigits (count : Nat) (t : Text) : Option (Nat × Text) :=
  let digits := t.take count
  if digits.length = count ∧ digits.all Char.isDigit then
    some (Text.toNat digits, t.drop count)
  else none

/-- The text after the given character, which must come first. -/
def readMark (mark : Char) : Text → Option Text
  | [] => none
  | c :: rest => if c = mark then some rest else none

/-- A day of the years from zero on, as it is written. -/
structure WrittenDay where
  year : Nat
  month : Nat
  day : Nat
  deriving DecidableEq, Repr

/-- A day as `YYYY-MM-DD`, and the rest. -/
def readDay (t : Text) : Option (WrittenDay × Text) := do
  let (year, t) ← readDigits 4 t
  let t ← readMark '-' t
  let (month, t) ← readDigits 2 t
  let t ← readMark '-' t
  let (day, t) ← readDigits 2 t
  if 1 ≤ month ∧ month ≤ 12 ∧ 1 ≤ day ∧ day ≤ daysInMonth year month then
    return (⟨year, month, day⟩, t)
  else none

/-- The microseconds of a decimal fraction of a second; digits after the
sixth are dropped. -/
def microsOfDigits (digits : Text) : Nat :=
  Text.toNat ((digits ++ List.replicate 6 '0').take 6)

/-- A fraction of a second after a point or a comma, in microseconds, and
the rest. Without the mark the fraction is zero; after it there is at
least one digit. -/
def readFraction (t : Text) : Option (Nat × Text) :=
  match t with
  | [] => some (0, [])
  | c :: rest =>
    if c = '.' ∨ c = ',' then
      match rest.span Char.isDigit with
      | ([], _) => none
      | (digits, rest) => some (microsOfDigits digits, rest)
    else some (0, t)

/-- The seconds of a time, with their fraction, and the rest. A time may
end with its minutes. -/
def readSeconds (t : Text) : Option (Nat × Nat × Text) :=
  match t with
  | ':' :: rest => do
    let (second, rest) ← readDigits 2 rest
    let (micro, rest) ← readFraction rest
    return (second, micro, rest)
  | _ => some (0, 0, t)

/-- A time of day as `HH:MM` or `HH:MM:SS`, and the rest. -/
def readClock (t : Text) : Option (Clock × Text) := do
  let (hour, t) ← readDigits 2 t
  let t ← readMark ':' t
  let (minute, t) ← readDigits 2 t
  let (second, micro, t) ← readSeconds t
  let clock ← Clock.ofParts? hour minute second micro
  return (clock, t)

/-- Is the sign of an offset a minus? -/
def readSign? (c : Char) : Option Bool :=
  if c = '+' then some false
  else if c = '-' ∨ c = '\u2212' then some true
  else none

namespace Zone

/-- The zone that is so many minutes east or west of Greenwich. It is
named by its offset, and at distance zero by the zone it then is. -/
def ofMinutes? (west : Bool) (minutes : Nat) : Option Zone :=
  let distance : Int := minutes * 60000000
  let offset := if west then -distance else distance
  ofOffset? offset (if offset = 0 then utc.name else offsetText ":" offset)

end Zone

/-- A zone that takes up the whole text: nothing, the letter for UTC, or
a sign with hours and minutes. -/
def readZone (t : Text) : Option (Option Zone) :=
  match t with
  | [] => some none
  | ['Z'] => some (some Zone.utc)
  | ['z'] => some (some Zone.utc)
  | c :: rest => do
    let west ← readSign? c
    let (hours, rest) ← readDigits 2 rest
    let (minutes, rest) ← readDigits 2 ((readMark ':' rest).getD rest)
    if minutes < 60 ∧ rest = [] then
      return some (← Zone.ofMinutes? west (hours * 60 + minutes))
    else none

/-- Does the character stand between a day and a time? -/
def isDaySeparator (c : Char) : Bool :=
  c = 'T' || c = 't' || c = ' ' || c = '_'

/-- A moment as it is written: a day, and a time and a zone where they
are given. -/
structure WrittenMoment where
  day : WrittenDay
  clock : Clock
  zone : Option Zone
  deriving DecidableEq

/-- The moment that takes up the whole text. -/
def readMoment (t : Text) : Option WrittenMoment := do
  let (day, t) ← readDay t
  match t with
  | [] => return ⟨day, Clock.midnight, none⟩
  | c :: rest =>
    if isDaySeparator c then
      let (clock, rest) ← readClock rest
      let zone ← readZone rest
      return ⟨day, clock, zone⟩
    else none

/-- The timestamp of a written moment; there is none in year zero. -/
def WrittenMoment.toTimestamp? (m : WrittenMoment) : Option Timestamp := do
  let date ← Date.ofParts? m.day.year m.day.month m.day.day
  return ⟨date, m.clock, m.zone⟩

-- ============================================================== numbers

/-- The largest number that counts seconds; beyond it, and below its
opposite, numbers count milliseconds. -/
def secondsLimit : Nat := 20000000000

/-- Is a number too large to count seconds? -/
def isMillis (f : Fraction) : Bool :=
  secondsLimit * f.den < f.num.natAbs

/-- The first second of year zero. -/
def firstSecond : Int := -62167219200

/-- The last second of year 9999. -/
def lastSecond : Int := 253402300799

/-- The microseconds since Unix time started of a whole number that
counts seconds or milliseconds, and some microseconds more, if they are
in the years from zero on. -/
def instant? (inMillis : Bool) (n micros : Int) : Option Int :=
  let micros := n * (if inMillis then 1000 else 1000000) + micros
  if firstSecond ≤ micros / 1000000 ∧ micros / 1000000 ≤ lastSecond then
    some micros
  else none

/-- The instant of a whole number. -/
def instantOfInteger? (n : Int) : Option Int :=
  instant? (isMillis ⟨n, 1⟩) n 0

/-- The instant of a floating-point number. What it has beyond the whole
number below it is a floating-point number itself, and again once it is
counted in microseconds; these are rounded, a half up. -/
def instantOfDouble? (d : Binary64) : Option Int := do
  let f ← d.toFraction?
  let inMillis := isMillis f
  let beyond ← Binary64.kept? (f.minus f.floor)
  let micros ← Binary64.kept?
    (beyond.times (if inMillis then 1000 else 1000000))
  instant? inMillis f.floor micros.roundAway

/-- The sign that a text may start with, and the rest. -/
def readSign : Text → Bool × Text
  | '-' :: rest => (true, rest)
  | '+' :: rest => (false, rest)
  | t => (false, t)

/-- The power of ten that ends a numeral; zero when it is left out. -/
def readPower : Text → Option Int
  | [] => some 0
  | c :: rest =>
    if c = 'e' ∨ c = 'E' then
      let (negative, digits) := readSign rest
      if digits ≠ [] ∧ digits.all Char.isDigit then
        let size : Int := Text.toNat digits
        some (if negative then -size else size)
      else none
    else none

/-- The instant of a text that is a number in decimal: a sign, digits,
and a point with digits, of which at least one digit must be there. After
a point there may also be a power of ten. -/
def instantOfNumeral? (t : Text) : Option Int := do
  let (negative, rest) := readSign t
  let (whole, rest) := rest.span Char.isDigit
  match rest with
  | [] =>
    let size : Int := Text.toNat whole
    if whole = [] then none
    else instantOfInteger? (if negative then -size else size)
  | '.' :: rest =>
    let (part, rest) := rest.span Char.isDigit
    let power ← readPower rest
    if whole ++ part = [] then none
    else
      instantOfDouble? (Binary64.ofDecimal negative
        (Text.toNat (whole ++ part)) (power - part.length))
  | _ => none

namespace Timestamp

/-- The timestamp of an instant; there is none in year zero. -/
def atInstant (micros : Int) : Except TimestampError Timestamp :=
  (ofInstant micros).mapError fun _ => .outOfRange

/-- The timestamp that a text stands for. -/
def ofText (t : Text) : Except TimestampError Timestamp :=
  match readMoment t with
  | some moment =>
    match moment.toTimestamp? with
    | some timestamp => .ok timestamp
    | none => .error .outOfRange
  | none =>
    match instantOfNumeral? t with
    | some micros => atInstant micros
    | none => .error .unreadable

/-- The timestamp that a floating-point number stands for. -/
def ofDouble (d : Binary64) : Except TimestampError Timestamp :=
  match instantOfDouble? d with
  | some micros => atInstant micros
  | none => .error .outOfRange

/-- The timestamp that an integer stands for. One that no floating-point
number comes near is not taken for a number of seconds at all. -/
def ofInteger (n : Int) : Except TimestampError Timestamp :=
  match (Binary64.ofInt n).toFraction?, instantOfInteger? n with
  | some _, some micros => atInstant micros
  | some _, none => .error .outOfRange
  | none, _ => .error .wrongKind

end Timestamp

end Logline.Calendar
