/-
Timestamps put together from parts: the numbers of a date and of a time
of day, and the offset and name of a zone where there is one. The parts
are values of any kind.

The zone is looked at first. Then every number has to be an integer of 32
bits, from the year on, before any of them is looked up in the calendar:
the date from the year on, and the time from the hour on. The first part
that is not taken is the error.
-/
import Logline.Calendar.Timestamp
import Logline.Value

namespace Logline.Calendar

open Number

/-- A part that is not taken. -/
inductive PartError where
  /-- The offset of a zone is not a number at all. -/
  | offsetNotNumber (kindName : Text)
  /-- The offset is the floating-point value that is no number. -/
  | offsetNan
  /-- The offset is infinite. -/
  | offsetInfinite
  /-- The days of the offset do not fit 32 bits. -/
  | offsetOutOfRange
  /-- The offset has too many days for a length of time. -/
  | offsetTooLong (days : Int)
  /-- The name of a zone is not a text. -/
  | nameNotText (kindName : Text)
  /-- The offset is a day or longer. -/
  | offset (micros : Int)
  /-- A number of the date is not given. -/
  | missing (name : Text) (place : Nat)
  | notInteger (kindName : Text)
  /-- A number does not fit 64 bits. -/
  | outOfRange
  /-- A number is larger than 32 bits hold. -/
  | tooLarge
  /-- A number is less than 32 bits hold. -/
  | tooSmall
  | year (n : Int)
  | month
  | day
  | hour
  | minute
  | second
  | micro
  deriving DecidableEq, Repr

/-- The most days of a length of time. -/
def mostDays : Nat := 999999999

/-- A length of time as it is written out: days, and seconds and
microseconds within the day where there are some. -/
def durationText (micros : Int) : Text :=
  let rest := micros % microsPerDay
  let parts : List (Text × Int) := [("days", micros / microsPerDay),
    ("seconds", rest / 1000000), ("microseconds", rest % 1000000)]
  let shown := parts.filter fun part => part.2 ≠ 0
  let inside : Text :=
    if shown = [] then "0"
    else Text.joinWith ", " (shown.map fun part =>
      part.1 ++ "=" ++ Text.ofInt part.2)
  "datetime.timedelta(" ++ inside ++ ")"

/-- The wording of a part that is not taken. -/
def PartError.message : PartError → Text
  | offsetNotNumber kindName =>
    "unsupported type for timedelta microseconds component: " ++ kindName
  | offsetNan => "cannot convert float NaN to integer"
  | offsetInfinite => "cannot convert float infinity to integer"
  | offsetOutOfRange => "Python int too large to convert to C int"
  | offsetTooLong days =>
    "days=" ++ Text.ofInt days ++ "; must have magnitude <= " ++
      Text.ofNat mostDays
  | nameNotText kindName =>
    "timezone() argument 2 must be str, not " ++ kindName
  | offset micros =>
    "offset must be a timedelta strictly between " ++
      "-timedelta(hours=24) and timedelta(hours=24), not " ++
      durationText micros ++ "."
  | missing name place =>
    "function missing required argument '" ++ name ++ "' (pos " ++
      Text.ofNat place ++ ")"
  | notInteger kindName => Value.notIntegerMessage kindName
  | outOfRange => "Python int too large to convert to C long"
  | tooLarge => "signed integer is greater than maximum"
  | tooSmall => "signed integer is less than minimum"
  | year n => "year " ++ Text.ofInt n ++ " is out of range"
  | month => "month must be in 1..12"
  | day => "day is out of range for month"
  | hour => "hour must be in 0..23"
  | minute => "minute must be in 0..59"
  | second => "second must be in 0..59"
  | micro => "microsecond must be in 0..999999"

-- =============================================================== zones

/-- The microseconds of an offset, a half to the even one. -/
def offsetMicros (v : Value) : Except PartError Int :=
  match v with
  | .double .nan => .error .offsetNan
  | .double d =>
    match d.toFraction? with
    | some f => .ok f.round
    | none => .error .offsetInfinite
  | _ =>
    match v.toInt? with
    | some n => .ok n
    | none => .error (.offsetNotNumber v.kindName)

/-- The offset as a length of time, whose days are limited. -/
def offsetLength (micros : Int) : Except PartError Int :=
  let days := micros / microsPerDay
  if !fitsBits 32 days then .error .offsetOutOfRange
  else if mostDays < days.natAbs then .error (.offsetTooLong days)
  else .ok micros

/-- The zone of an offset and a name. Without a name it is named by its
distance from UTC. -/
def zoneOf (offset name : Value) : Except PartError Zone := do
  let micros ← offsetMicros offset
  let micros ← offsetLength micros
  let name ← match name with
    | .null => pure (Zone.distanceName micros)
    | .text t => pure t
    | v => throw (.nameNotText v.kindName)
  match Zone.ofOffset? micros name with
  | some zone => return zone
  | none => throw (.offset micros)

-- ============================================================= numbers

/-- A number of a date or of a time of day, which has to fit 32 bits. -/
def smallInteger (v : Value) : Except PartError Int :=
  match v.toInt? with
  | none => .error (.notInteger v.kindName)
  | some n =>
    if !fitsBits 64 n then .error .outOfRange
    else if fitsBits 32 n then .ok n
    else if n < 0 then .error .tooSmall
    else .error .tooLarge

/-- A number that has to be given. -/
def required (values : List Value) (name : Text) (place : Nat) :
    Except PartError Int :=
  match values[place - 1]? with
  | some v => smallInteger v
  | none => .error (.missing name place)

/-- A number that is zero unless it is given. -/
def optional (values : List Value) (place : Nat) : Except PartError Int :=
  match values[place - 1]? with
  | some v => smallInteger v
  | none => .ok 0

/-- Does a number lie between two bounds? -/
def within (low high n : Int) : Bool :=
  low ≤ n && n ≤ high

/-- The date of a year, a month and a day. -/
def dateOf (year month day : Int) : Except PartError Date :=
  if !within 1 9999 year then .error (.year year)
  else if !within 1 12 month then .error .month
  else
    match Date.ofParts? year.toNat month.toNat day.toNat with
    | some date => .ok date
    | none => .error .day

/-- The time of day of its numbers. -/
def clockOf (hour minute second micro : Int) : Except PartError Clock :=
  if !within 0 23 hour then .error .hour
  else if !within 0 59 minute then .error .minute
  else if !within 0 59 second then .error .second
  else
    match Clock.ofParts? hour.toNat minute.toNat second.toNat
      micro.toNat with
    | some clock => if micro < 0 then .error .micro else .ok clock
    | none => .error .micro

-- ========================================================== timestamps

/-- The parts of a timestamp. -/
structure Parts where
  /-- Year, month and day. -/
  date : List Value
  /-- Hour, minute, second and microsecond, as far as they are given. -/
  time : List Value
  /-- The offset in microseconds; nothing if there is no zone. -/
  offset : Value
  /-- The name of the zone; nothing if it has none of its own. -/
  name : Value

/-- The timestamp of its parts. -/
def Parts.timestamp (p : Parts) : Except PartError Timestamp := do
  let zone ← match p.offset with
    | .null => pure none
    | offset => (zoneOf offset p.name).map some
  let values := p.date ++ p.time
  let year ← required values "year" 1
  let month ← required values "month" 2
  let day ← required values "day" 3
  let hour ← optional values 4
  let minute ← optional values 5
  let second ← optional values 6
  let micro ← optional values 7
  let date ← dateOf year month day
  let clock ← clockOf hour minute second micro
  return ⟨date, clock, zone⟩

end Logline.Calendar
