/-
The order of timestamps. What a clock and a calendar show is a row of
numbers, the year first, and of two rows the one that is smaller where
they first differ is the earlier. That is so because every part of a
moment starts after all of the parts before it have ended, however long
they are (`add_lt_add_iff_of_starts`): years with their leap days, months
of any length, and the parts of a day.

A pattern that writes the row in columns of fixed width, as the sortable
one does, therefore gives texts in the order of the moments they are of
(`sortableText_lt_iff`), and different ones for different moments.
-/
import Logline.Proofs.Calendar.Fraction
import Logline.Proofs.Calendar.Instant
import Logline.Proofs.Text.Columns

namespace Logline.Calendar

open Text

-- =========================================================== the order

/-- Places are in the order of the parts they lie in, and inside a part in
their own, if each of two parts ends before a later one starts. -/
theorem add_lt_add_iff_of_starts {start size : Nat → Nat} {x y i j : Nat}
    (hxy : x < y → start x + size x ≤ start y)
    (hyx : y < x → start y + size y ≤ start x)
    (hi : i < size x) (hj : j < size y) :
    start x + i < start y + j ↔ x < y ∨ x = y ∧ i < j := by
  rcases Nat.lt_trichotomy x y with hlt | rfl | hlt
  · have hle := hxy hlt
    omega
  · omega
  · have hle := hyx hlt
    omega

/-- In particular if all parts are of one size. -/
theorem mul_add_lt_mul_add_iff {size x y i j : Nat} (hi : i < size)
    (hj : j < size) :
    x * size + i < y * size + j ↔ x < y ∨ x = y ∧ i < j := by
  have hends : ∀ {a b : Nat}, a < b → a * size + size ≤ b * size := by
    intro a b hlt
    rw [← Nat.succ_mul]
    exact Nat.mul_le_mul_right size hlt
  exact @add_lt_add_iff_of_starts (· * size) (fun _ => size) x y i j hends
    hends hi hj

-- ============================================================= dates

namespace Date

/-- The numbers of a date, from the year down. -/
def row (d : Date) : List Nat := [d.year, d.month, d.day]

theorem number_eq (d : Date) :
    d.number = daysBeforeYear d.year + d.yearDay := by
  rw [number, yearDay, Nat.add_assoc]

theorem yearDay_lt (d : Date) : d.yearDay < daysInYear d.year := by
  have hmonth := d.month_le
  have hle : daysBeforeMonth d.year d.month + daysInMonth d.year d.month
      ≤ daysBeforeMonth d.year 13 :=
    daysBeforeMonth_add_le d.year d.month_pos (by omega)
  have hday := d.day_le
  have hpos := d.day_pos
  rw [daysBeforeMonth_thirteen] at hle
  unfold yearDay
  omega

variable (d e : Date)

/-- Within a year days are in the order of their months, and within a
month in that of their numbers. -/
theorem yearDay_lt_iff (hyear : d.year = e.year) :
    d.yearDay < e.yearDay
      ↔ d.month < e.month ∨ d.month = e.month ∧ d.day < e.day := by
  have hd := d.day_pos
  have he := e.day_pos
  have hi : d.day - 1 < daysInMonth d.year d.month := by
    have := d.day_le
    omega
  have hj : e.day - 1 < daysInMonth d.year e.month := by
    have := hyear ▸ e.day_le
    omega
  unfold yearDay
  rw [← hyear, add_lt_add_iff_of_starts
    (daysBeforeMonth_add_le d.year d.month_pos)
    (daysBeforeMonth_add_le d.year e.month_pos) hi hj]
  omega

/-- The earlier date is the one with the smaller row. -/
theorem number_lt_iff : d.number < e.number ↔ d.row < e.row := by
  rw [number_eq, number_eq, add_lt_add_iff_of_starts
    (daysBeforeYear_add_le d.year_pos) (daysBeforeYear_add_le e.year_pos)
    d.yearDay_lt e.yearDay_lt]
  simp only [row, List.cons_lt_cons_iff, List.lt_irrefl, and_false, or_false]
  exact or_congr_right (and_congr_right (yearDay_lt_iff d e))

theorem number_eq_iff : d.number = e.number ↔ d.row = e.row := by
  constructor
  · intro heq
    refine List.le_antisymm ?_ ?_
    · exact fun hlt => Nat.ne_of_lt ((number_lt_iff e d).2 hlt) heq.symm
    · exact fun hlt => Nat.ne_of_lt ((number_lt_iff d e).2 hlt) heq
  · intro heq
    simp only [row, List.cons.injEq, and_true] at heq
    obtain ⟨hyear, hmonth, hday⟩ := heq
    unfold number
    rw [hyear, hmonth, hday]

end Date

-- ============================================================= clocks

namespace Clock

/-- The numbers of a time of day, from the hour down. -/
def row (c : Clock) : List Nat := [c.hour, c.minute, c.second, c.micro]

theorem micros_lt (c : Clock) : c.micros < microsPerDay := by
  have hhour := c.hour_lt
  have hminute := c.minute_lt
  have hsecond := c.second_lt
  have hmicro := c.micro_lt
  unfold micros microsPerDay
  omega

/-- The earlier time of day is the one with the smaller row. -/
theorem micros_lt_iff (c e : Clock) : c.micros < e.micros ↔ c.row < e.row := by
  have hminute := c.minute_lt
  have hsecond := c.second_lt
  have hminute' := e.minute_lt
  have hsecond' := e.second_lt
  have hminutes : c.hour * 60 + c.minute = e.hour * 60 + e.minute
      ↔ c.hour = e.hour ∧ c.minute = e.minute := by omega
  have hseconds : (c.hour * 60 + c.minute) * 60 + c.second
        = (e.hour * 60 + e.minute) * 60 + e.second
      ↔ c.hour * 60 + c.minute = e.hour * 60 + e.minute
        ∧ c.second = e.second := by omega
  unfold micros
  rw [mul_add_lt_mul_add_iff c.micro_lt e.micro_lt,
    mul_add_lt_mul_add_iff hsecond hsecond',
    mul_add_lt_mul_add_iff hminute hminute', hseconds, hminutes]
  simp only [row, List.cons_lt_cons_iff, List.lt_irrefl, and_false, or_false]
  clear hseconds hminutes
  omega

end Clock

-- ============================================================ moments

namespace Timestamp

/-- The numbers that a moment shows, from the year down to the
microsecond. -/
def row (t : Timestamp) : List Nat := t.date.row ++ t.clock.row

/-- The earlier moment is the one with the smaller row. -/
theorem wallMicros_lt_iff (t u : Timestamp) :
    t.wallMicros < u.wallMicros ↔ t.row < u.row := by
  have hday : t.wallMicros < u.wallMicros
      ↔ t.date.number < u.date.number
        ∨ t.date.number = u.date.number
          ∧ t.clock.micros < u.clock.micros := by
    have hlt := t.clock.micros_lt
    have hlt' := u.clock.micros_lt
    unfold wallMicros
    unfold microsPerDay at *
    omega
  have hlength : t.date.row.length = u.date.row.length := rfl
  rw [hday, Date.number_lt_iff, Date.number_eq_iff, Clock.micros_lt_iff,
    row, row, append_lt_append_iff hlength]

/-- The wall clock shows the same moment exactly where all parts are
equal. -/
theorem wallMicros_eq_iff (t u : Timestamp) :
    t.wallMicros = u.wallMicros ↔ t.row = u.row := by
  have hearlier := wallMicros_lt_iff t u
  have hlater := wallMicros_lt_iff u t
  constructor
  · intro heq
    refine List.le_antisymm ?_ ?_
    · exact fun hlt => Int.ne_of_lt (hlater.2 hlt) heq.symm
    · exact fun hlt => Int.ne_of_lt (hearlier.2 hlt) heq
  · intro heq
    rw [heq] at hearlier hlater
    have hnot := mt hearlier.1 (List.lt_irrefl u.row)
    have hnot' := mt hlater.1 (List.lt_irrefl u.row)
    omega

end Timestamp

-- ==================================================== the sortable text

/-- The pattern that writes a moment to the microsecond, each number in a
column of its own. -/
def sortablePattern : Text := "2006-01-02 15:04:05.000000"

/-- The columns of the pattern. -/
def sortableColumns : List Column :=
  [⟨4, "-"⟩, ⟨2, "-"⟩, ⟨2, " "⟩, ⟨2, ":"⟩, ⟨2, ":"⟩, ⟨2, "."⟩, ⟨6, []⟩]

/-- A moment as the pattern writes it. -/
def sortableText (t : Timestamp) : Text :=
  formatReference t sortablePattern

/-- The pattern writes the parts of a moment in its columns. -/
theorem sortableText_eq (t : Timestamp) :
    sortableText t = inColumns sortableColumns t.row := by
  have hsplit : split sortablePattern
      = [.token .year, .literal ['-'], .token .monthTwo, .literal ['-'],
        .token .dayTwo, .literal [' '], .token .hour, .literal [':'],
        .token .minuteTwo, .literal [':'], .token .secondTwo,
        .token (.fraction false 6)] := by
    decide +kernel
  have hfraction := showFraction_six t.clock
  unfold sortableText formatReference
  rw [hsplit]
  simp only [List.flatMap_cons, List.flatMap_nil, Chunk.show, Token.show,
    hfraction]
  rfl

/-- Every number of a moment has room in its column. -/
theorem fits_row (t : Timestamp) : Fits sortableColumns t.row := by
  have hyear := t.date.year_le
  have hmonth := t.date.month_le
  have hday := t.date.day_lt
  have hhour := t.clock.hour_lt
  have hminute := t.clock.minute_lt
  have hsecond := t.clock.second_lt
  have hmicro := t.clock.micro_lt
  show Fits sortableColumns [t.date.year, t.date.month, t.date.day,
    t.clock.hour, t.clock.minute, t.clock.second, t.clock.micro]
  refine .cons (by decide) ?_ (.cons (by decide) ?_ (.cons (by decide) ?_
    (.cons (by decide) ?_ (.cons (by decide) ?_ (.cons (by decide) ?_
      (.cons (by decide) ?_ .nil))))))
  all_goals
    dsimp only
    omega

theorem length_sortableText_eq (t u : Timestamp) :
    (sortableText t).length = (sortableText u).length := by
  rw [sortableText_eq, sortableText_eq]
  exact length_inColumns_eq (fits_row t) (fits_row u)

theorem newline_not_mem_sortableText (t : Timestamp) :
    '\n' ∉ sortableText t := by
  have hbehind : ∀ column ∈ sortableColumns, '\n' ∉ column.behind := by
    decide
  rw [sortableText_eq]
  intro h
  rcases isDigit_or_mem_of_mem_inColumns h with hdigit | ⟨column, hmem, hc⟩
  · cases hdigit
  · exact hbehind column hmem hc

/-- Texts of moments are in the order of the moments. -/
theorem sortableText_lt_iff (t u : Timestamp) :
    sortableText t < sortableText u ↔ t.wallMicros < u.wallMicros := by
  rw [sortableText_eq, sortableText_eq,
    inColumns_lt_iff (fits_row t) (fits_row u), Timestamp.wallMicros_lt_iff]

theorem sortableText_eq_iff (t u : Timestamp) :
    sortableText t = sortableText u ↔ t.wallMicros = u.wallMicros := by
  rw [Timestamp.wallMicros_eq_iff, sortableText_eq, sortableText_eq]
  constructor
  · exact inColumns_inj (fits_row t) (fits_row u)
  · intro h
    rw [h]

end Logline.Calendar
