/-
Timestamps. A timestamp is what a wall clock and a calendar show, to the
microsecond, together with the zone they are kept in. A timestamp without
a zone is allowed: nothing is then known of its offset.

A zone is a fixed offset from UTC, shorter than a day and as fine as a
microsecond, and a name. Offsets east of Greenwich are positive.
-/
import Logline.Calendar.Date

namespace Logline.Calendar

/-- A time of day. -/
structure Clock where
  hour : Nat
  minute : Nat
  second : Nat
  micro : Nat
  hour_lt : hour < 24 := by decide
  minute_lt : minute < 60 := by decide
  second_lt : second < 60 := by decide
  micro_lt : micro < 1000000 := by decide
  deriving DecidableEq

/-- The microseconds of a day. -/
def microsPerDay : Nat := 86400000000

namespace Clock

/-- The time of day with the given parts, if there is one. -/
def ofParts? (hour minute second micro : Nat) : Option Clock :=
  if h : hour < 24 ∧ minute < 60 ∧ second < 60 ∧ micro < 1000000 then
    some ⟨hour, minute, second, micro, h.1, h.2.1, h.2.2.1, h.2.2.2⟩
  else none

/-- The start of the day. -/
def midnight : Clock := .mk 0 0 0 0

/-- The microseconds since midnight. -/
def micros (c : Clock) : Nat :=
  ((c.hour * 60 + c.minute) * 60 + c.second) * 1000000 + c.micro

/-- The time of day so many microseconds after midnight; whole days are
dropped. -/
def ofMicros (n : Nat) : Clock :=
  let seconds := n / 1000000
  { hour := seconds / 3600 % 24
    minute := seconds / 60 % 60
    second := seconds % 60
    micro := n % 1000000
    hour_lt := Nat.mod_lt _ (by decide)
    minute_lt := Nat.mod_lt _ (by decide)
    second_lt := Nat.mod_lt _ (by decide)
    micro_lt := Nat.mod_lt _ (by decide) }

/-- The hour on a dial of twelve. -/
def dialHour (c : Clock) : Nat :=
  if c.hour % 12 = 0 then 12 else c.hour % 12

theorem dialHour_lt (c : Clock) : c.dialHour < 13 := by
  unfold dialHour
  split <;> omega

/-- Is it noon or later? -/
def isAfternoon (c : Clock) : Bool :=
  12 ≤ c.hour

end Clock

/-- A fixed offset from UTC in microseconds, with the zone's name. -/
structure Zone where
  offset : Int
  name : Text
  offset_lt : offset.natAbs < microsPerDay
  deriving DecidableEq

/-- The sign of an offset. -/
def offsetSign (offset : Int) : Char :=
  if offset < 0 then '-' else '+'

/-- An offset as sign, hours and minutes, with a separator between them.
Seconds follow only where there are some, and a fraction only where the
seconds have one. -/
def offsetText (sep : Text) (offset : Int) : Text :=
  let micros := offset.natAbs
  let seconds := micros / 1000000
  let fraction := micros % 1000000
  let minutes := offsetSign offset :: Text.zeroPadded 2 (seconds / 3600) ++
    sep ++ Text.zeroPadded 2 (seconds / 60 % 60)
  if fraction ≠ 0 then
    minutes ++ sep ++ Text.zeroPadded 2 (seconds % 60) ++ "." ++
      Text.zeroPadded 6 fraction
  else if seconds % 60 ≠ 0 then
    minutes ++ sep ++ Text.zeroPadded 2 (seconds % 60)
  else minutes

namespace Zone

/-- Coordinated universal time. -/
def utc : Zone := ⟨0, "UTC", by decide⟩

/-- The zone with the given offset and name, if the offset is shorter
than a day. -/
def ofOffset? (offset : Int) (name : Text) : Option Zone :=
  if h : offset.natAbs < microsPerDay then some ⟨offset, name, h⟩ else none

/-- The name of a zone that has none of its own: its distance from UTC. -/
def distanceName (offset : Int) : Text :=
  if offset = 0 then "UTC" else "UTC" ++ offsetText ":" offset

end Zone

/-- A moment as clock, calendar and zone show it. -/
structure Timestamp where
  date : Date
  clock : Clock
  zone : Option Zone
  deriving DecidableEq

/-- The number of the day on which Unix time starts. -/
def unixDay : Nat := 719162

namespace Timestamp

/-- The first moment of the calendar, in no zone. -/
def first : Timestamp := ⟨.mk 1 1 1, .midnight, none⟩

/-- The microseconds of the wall clock since Unix time started, the zone
left aside. -/
def wallMicros (t : Timestamp) : Int :=
  ((t.date.number : Int) - unixDay) * microsPerDay + t.clock.micros

/-- The seconds of the wall clock since Unix time started. -/
def wallSeconds (t : Timestamp) : Int :=
  t.wallMicros / 1000000

/-- The timestamp in UTC so many microseconds after Unix time started,
or its year when that is out of range. -/
def ofInstant (micros : Int) : Except Int Timestamp := do
  let date ← Date.ofNumber (micros / microsPerDay + unixDay)
  return ⟨date, Clock.ofMicros (micros % microsPerDay).toNat, some Zone.utc⟩

/-- The timestamp in the given zone if it has none. -/
def withDefaultZone (t : Timestamp) (zone : Zone) : Timestamp :=
  { t with zone := some (t.zone.getD zone) }

/-- The extended form of a timestamp: date, `T`, time, a fraction when it
is not zero, and the offset when there is a zone. -/
def isoText (t : Timestamp) : Text :=
  let c := t.clock
  let day := Text.zeroPadded 4 t.date.year ++ "-" ++
    Text.zeroPadded 2 t.date.month ++ "-" ++ Text.zeroPadded 2 t.date.day
  let time := Text.zeroPadded 2 c.hour ++ ":" ++
    Text.zeroPadded 2 c.minute ++ ":" ++ Text.zeroPadded 2 c.second
  let fraction : Text :=
    if c.micro = 0 then [] else "." ++ Text.zeroPadded 6 c.micro
  let offset : Text :=
    match t.zone with
    | none => []
    | some zone => offsetText ":" zone.offset
  day ++ "T" ++ time ++ fraction ++ offset

end Timestamp

end Logline.Calendar
