/-
Timestamps that are read back. A written moment is a row of fields, and
every reader takes its field off the front and leaves the rest. Numbers
have a fixed number of places, so their ends are found by counting; only
the fraction ends where its digits end, which is why what follows it must
not be a digit (`readFraction_six`).

Put together, a date and a time with any fraction and zone that can be
read are read as the timestamp that has them (`ofText_written`). And what
is read is always such a timestamp: its zone, if it has one, is a plain
zone (`isPlain_of_readMoment`), so nothing of it is lost when it is written
with its offset alone.
-/
import Logline.Calendar.Directive
import Logline.Proofs.Calendar.Fraction
import Logline.Proofs.Calendar.Offset

namespace Logline.Calendar

open Text

-- =========================================================== one field

theorem readMark_cons (mark : Char) (rest : Text) :
    readMark mark (mark :: rest) = some rest :=
  if_pos rfl

theorem readDigits_two {n : Nat} (h : n < 100) (rest : Text) :
    readDigits 2 (zeroPadded 2 n ++ rest) = some (n, rest) :=
  readDigits_zeroPadded (by decide) h rest

-- ======================================================== day and time

/-- A date as year, month and day, hyphens between them. -/
def dayText (d : Date) : Text :=
  zeroPadded 4 d.year ++ "-" ++ zeroPadded 2 d.month ++ "-" ++
    zeroPadded 2 d.day

/-- A day is read back, whatever stands behind it. -/
theorem readDay_dayText (d : Date) (rest : Text) :
    readDay (dayText d ++ rest) = some (⟨d.year, d.month, d.day⟩, rest) := by
  have hyear : d.year < 10 ^ 4 := by
    have := d.year_le
    omega
  have hmonth : d.month < 100 := by
    have := d.month_le
    omega
  have hday : d.day < 100 := by
    have := d.day_lt
    omega
  have hparts : dayText d ++ rest
      = zeroPadded 4 d.year ++ '-' :: (zeroPadded 2 d.month ++
        '-' :: (zeroPadded 2 d.day ++ rest)) := by
    simp [dayText]
  have hvalid : 1 ≤ d.month ∧ d.month ≤ 12 ∧ 1 ≤ d.day
      ∧ d.day ≤ daysInMonth d.year d.month :=
    ⟨d.month_pos, d.month_le, d.day_pos, d.day_le⟩
  rw [hparts, readDay, readDigits_zeroPadded (by decide) hyear]
  simp only [Option.bind_eq_bind, Option.bind_some, readMark_cons,
    readDigits_two hmonth, readDigits_two hday, if_pos hvalid]
  rfl

theorem Clock.ofParts?_self (c : Clock) :
    ofParts? c.hour c.minute c.second c.micro = some c :=
  dif_pos ⟨c.hour_lt, c.minute_lt, c.second_lt, c.micro_lt⟩

theorem Date.ofParts?_self (d : Date) :
    ofParts? d.year d.month d.day = some d :=
  dif_pos ⟨d.year_pos, d.year_le, d.month_pos, d.month_le, d.day_pos,
    d.day_le⟩

/-- A time of day is read back, together with the fraction behind it. -/
theorem readClock_clockText (c : Clock) {fraction rest : Text}
    (h : readFraction fraction = some (c.micro, rest)) :
    readClock (clockText c ++ fraction) = some (c, rest) := by
  have hhour : c.hour < 100 := by
    have := c.hour_lt
    omega
  have hminute : c.minute < 100 := by
    have := c.minute_lt
    omega
  have hsecond : c.second < 100 := by
    have := c.second_lt
    omega
  have hparts : clockText c ++ fraction
      = zeroPadded 2 c.hour ++ ':' :: (zeroPadded 2 c.minute ++
        ':' :: (zeroPadded 2 c.second ++ fraction)) := by
    simp [clockText]
  rw [hparts, readClock, readDigits_two hhour]
  simp only [Option.bind_eq_bind, Option.bind_some, readMark_cons,
    readDigits_two hminute, readSeconds, readDigits_two hsecond, h,
    Option.pure_def, c.ofParts?_self]

-- ======================================================= whole moments

/-- A timestamp is read back from its date and its time, with every
fraction and every offset that are read back. -/
theorem ofText_written (t : Timestamp) {fraction offset : Text}
    (hfraction : readFraction (fraction ++ offset)
      = some (t.clock.micro, offset))
    (hoffset : readZone offset = some t.zone) :
    Timestamp.ofText
        (dayText t.date ++ 'T' :: clockText t.clock ++ fraction ++ offset)
      = .ok t := by
  have hparts : dayText t.date ++ 'T' :: clockText t.clock ++ fraction
        ++ offset
      = dayText t.date ++ 'T' :: (clockText t.clock
        ++ (fraction ++ offset)) := by
    simp only [List.append_assoc, List.cons_append]
  have hmoment : readMoment (dayText t.date ++ 'T' :: (clockText t.clock
        ++ (fraction ++ offset)))
      = some ⟨⟨t.date.year, t.date.month, t.date.day⟩, t.clock,
        t.zone⟩ := by
    rw [readMoment, readDay_dayText]
    simp only [Option.bind_eq_bind, Option.bind_some,
      readClock_clockText t.clock hfraction, hoffset]
    rfl
  rw [hparts, Timestamp.ofText, hmoment]
  simp only [WrittenMoment.toTimestamp?, t.date.ofParts?_self]
  rfl

-- ================================================== what can be written

/-- The zone of a timestamp, if it has one, is as zones are read. -/
def Timestamp.IsPlain (t : Timestamp) : Prop :=
  ∀ zone, t.zone = some zone → zone.IsPlain

/-- A zone that a text names is plain. -/
theorem isPlain_of_readMoment {text : Text} {m : WrittenMoment}
    (h : readMoment text = some m) {zone : Zone}
    (hzone : m.zone = some zone) : zone.IsPlain := by
  obtain ⟨⟨day, rest⟩, -, h⟩ := Option.bind_eq_some_iff.1 h
  cases rest with
  | nil =>
      cases h
      cases hzone
  | cons c rest =>
      simp only at h
      split at h
      · obtain ⟨⟨clock, after⟩, -, h⟩ := Option.bind_eq_some_iff.1 h
        obtain ⟨found, hfound, h⟩ := Option.bind_eq_some_iff.1 h
        cases h
        cases hzone
        exact isPlain_of_readZone hfound
      · cases h

/-- Instants are told in UTC. -/
theorem zone_of_ofInstant {micros : Int} {t : Timestamp}
    (h : Timestamp.ofInstant micros = .ok t) : t.zone = some Zone.utc := by
  unfold Timestamp.ofInstant at h
  cases hdate : Date.ofNumber (micros / microsPerDay + unixDay) with
  | error year =>
      rw [hdate] at h
      cases h
  | ok date =>
      rw [hdate] at h
      cases h
      rfl

/-- So is that of an instant, which is UTC. -/
theorem isPlain_of_atInstant {micros : Int} {t : Timestamp}
    (h : Timestamp.atInstant micros = .ok t) : t.IsPlain := by
  intro zone hzone
  have hutc : t.zone = some Zone.utc := by
    unfold Timestamp.atInstant at h
    cases hinstant : Timestamp.ofInstant micros with
    | error year =>
        rw [hinstant] at h
        cases h
    | ok found =>
        rw [hinstant] at h
        cases h
        exact zone_of_ofInstant hinstant
  rw [hutc] at hzone
  cases hzone
  exact Zone.isPlain_utc

/-- Every timestamp that is read off a text is plain, a written moment or
an instant. -/
theorem isPlain_of_ofText {text : Text} {t : Timestamp}
    (h : Timestamp.ofText text = .ok t) : t.IsPlain := by
  unfold Timestamp.ofText at h
  split at h
  · next m hmoment =>
    split at h
    · next found hfound =>
      cases h
      obtain ⟨date, -, hdate⟩ := Option.bind_eq_some_iff.1 hfound
      cases hdate
      exact fun _ => isPlain_of_readMoment hmoment
    · cases h
  · split at h
    · exact isPlain_of_atInstant h
    · cases h

-- ======================================================= two full forms

/-- The pattern that leaves nothing out: six places of a fraction, and an
offset to the minute, or the letter for UTC. -/
def canonicalPattern : Text := "2006-01-02T15:04:05.000000Z07:00"

/-- A timestamp in full. -/
def canonicalText (t : Timestamp) : Text :=
  formatReference t canonicalPattern

/-- What the canonical pattern writes, field by field. -/
theorem canonicalText_eq (t : Timestamp) :
    canonicalText t
      = dayText t.date ++ 'T' :: clockText t.clock
        ++ '.' :: zeroPadded 6 t.clock.micro
        ++ (Token.offset true .colon).show t := by
  have hsplit : split canonicalPattern
      = [.token .year, .literal ['-'], .token .monthTwo, .literal ['-'],
        .token .dayTwo, .literal ['T'], .token .hour, .literal [':'],
        .token .minuteTwo, .literal [':'], .token .secondTwo,
        .token (.fraction false 6), .token (.offset true .colon)] := by
    decide +kernel
  have hfraction := showFraction_six t.clock
  unfold canonicalText formatReference
  rw [hsplit]
  simp only [List.flatMap_cons, List.flatMap_nil, Chunk.show, Token.show,
    hfraction, dayText, clockText]
  simp

section Forms

variable {t : Timestamp} {zone : Zone} (hzone : t.zone = some zone)
  (hplain : zone.IsPlain)

/-- Neither a digit nor the mark of a fraction starts an offset. -/
theorem head_of_offset {offset : Int} {c : Char}
    (h : c ∈ (signedMinutes (offsetSign offset) ":"
      (offset.natAbs / 60000000)).head?) :
    c.isDigit = false ∧ c ≠ '.' ∧ c ≠ ',' := by
  cases h
  unfold offsetSign
  split <;> decide

include hzone hplain

/-- The canonical text of a timestamp with a plain zone is read back. -/
theorem ofText_canonicalText :
    Timestamp.ofText (canonicalText t) = .ok t := by
  have hoffset : t.offset = zone.offset := by
    rw [Timestamp.offset, hzone]
  rw [canonicalText_eq]
  by_cases hzulu : isZulu zone.offset = true
  · -- the letter stands for the zone that the offset then is
    have hletter : (Token.offset true .colon).show t = ['Z'] := by
      rw [Token.show, hoffset, hzulu]
      rfl
    rw [hletter]
    refine ofText_written t (readFraction_six t.clock.micro_lt ?_) ?_
    · intro c hc
      cases hc
      rfl
    · rw [hzone, hplain.eq_utc hzulu]
      rfl
  · have hsigned : (Token.offset true .colon).show t
        = signedMinutes (offsetSign zone.offset) ":"
          (zone.offset.natAbs / 60000000) := by
      rw [Bool.not_eq_true] at hzulu
      rw [Token.show, hoffset, hzulu]
      exact showOffset_colon zone.offset
    rw [hsigned]
    refine ofText_written t (readFraction_six t.clock.micro_lt ?_) ?_
    · exact fun c hc => (head_of_offset hc).1
    · rw [hzone, readZone_offset hplain]

/-- The extended form of a timestamp with a plain zone is read back. -/
theorem ofText_isoText : Timestamp.ofText t.isoText = .ok t := by
  have hiso : t.isoText = dayText t.date ++ 'T' :: clockText t.clock
      ++ (if t.clock.micro = 0 then []
        else '.' :: zeroPadded 6 t.clock.micro)
      ++ signedMinutes (offsetSign zone.offset) ":"
        (zone.offset.natAbs / 60000000) := by
    rw [← offsetText_of_minutes ":" hplain.minutes]
    simp [Timestamp.isoText, dayText, clockText, hzone]
  have hhead := @head_of_offset zone.offset
  rw [hiso]
  refine ofText_written t ?_ ?_
  · by_cases hmicro : t.clock.micro = 0
    · rw [if_pos hmicro, hmicro]
      exact readFraction_none fun c hc => (hhead hc).2
    · rw [if_neg hmicro]
      exact readFraction_six t.clock.micro_lt fun c hc => (hhead hc).1
  · rw [hzone, readZone_offset hplain]

end Forms

end Logline.Calendar
