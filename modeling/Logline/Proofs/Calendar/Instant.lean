/-
Days and instants by their number. A date is found from the number of its
day by walking over years and then over months, and each walk keeps one
sum: the days before the place it has come to, and those that are left to
go (`walkYears_spec`, `walkMonths_spec`). At its end what is left is less
than a year, or than a month, so the date that is found has the number it
was looked up by.

Years are walked inside one cycle of four hundred. Leap years repeat with
it, so the cycles in front only move the number (`daysBeforeYear_cycle`).
A number before year one comes to a year below one, which no date has.

Together with the time of day, which is found by dividing, this says that
the timestamp of an instant shows the instant on its clock
(`wallMicros_ofInstant`).
-/
import Logline.Calendar.Timestamp

namespace Logline.Calendar

-- =============================================================== years

/-- The next year starts when the days of this one are over. -/
theorem daysBeforeYear_succ {year : Nat} (h : 1 ≤ year) :
    daysBeforeYear (year + 1) = daysBeforeYear year + daysInYear year := by
  obtain ⟨n, rfl⟩ : ∃ n, year = n + 1 := ⟨year - 1, by omega⟩
  have hhundred : (n + 1) % 100 = 0 → (n + 1) % 4 = 0 := by omega
  have hcycle : (n + 1) % 400 = 0 → (n + 1) % 100 = 0 := by omega
  have hle : n / 100 ≤ n / 4 := by omega
  simp only [daysBeforeYear, daysInYear, isLeap, Nat.add_sub_cancel,
    Nat.succ_div, Nat.dvd_iff_mod_eq_zero, Bool.and_eq_true,
    Bool.or_eq_true, decide_eq_true_eq, ne_eq]
  generalize (n + 1) % 4 = four at *
  generalize (n + 1) % 100 = hundred at *
  generalize (n + 1) % 400 = cycle at *
  generalize n / 4 = a at *
  generalize n / 100 = b at *
  generalize n / 400 = c at *
  repeat' split
  all_goals omega

/-- A year ends before any later one starts. -/
theorem daysBeforeYear_add_le {year later : Nat} (h : 1 ≤ year)
    (hlt : year < later) :
    daysBeforeYear year + daysInYear year ≤ daysBeforeYear later := by
  induction later with
  | zero => cases hlt
  | succ later ih =>
      have hlater := @daysBeforeYear_succ later
      rcases Nat.lt_succ_iff_lt_or_eq.1 hlt with hlt | rfl
      · have hle := ih hlt
        have hnext := hlater (by omega)
        omega
      · exact Nat.le_of_eq (hlater h).symm

/-- Walking over years ends inside a year, and the day stays the same. -/
theorem walkYears_spec {year n : Nat} (h : 1 ≤ year) :
    1 ≤ (walkYears year n).1
      ∧ (walkYears year n).2 < daysInYear (walkYears year n).1
      ∧ daysBeforeYear (walkYears year n).1 + (walkYears year n).2
        = daysBeforeYear year + n := by
  induction year, n using walkYears.induct with
  | case1 year n hlt =>
      rw [walkYears, if_pos hlt]
      exact ⟨h, hlt, rfl⟩
  | case2 year n hge ih =>
      obtain ⟨hpos, hplace, hsum⟩ := ih (Nat.le_succ_of_le h)
      rw [walkYears, if_neg hge]
      refine ⟨hpos, hplace, ?_⟩
      rw [hsum, daysBeforeYear_succ h]
      omega

-- ============================================================== cycles

theorem daysBeforeYear_cycle {year : Nat} (h : 1 ≤ year) (k : Nat) :
    daysBeforeYear (400 * k + year)
      = daysInCycle * k + daysBeforeYear year := by
  unfold daysBeforeYear daysInCycle
  omega

-- ============================================================== months

theorem daysBeforeMonth_succ (year : Nat) {month : Nat} (h : 1 ≤ month) :
    daysBeforeMonth year (month + 1)
      = daysBeforeMonth year month + daysInMonth year month := by
  obtain ⟨month, rfl⟩ : ∃ k, month = k + 1 := ⟨month - 1, by omega⟩
  rfl

/-- A month ends before any later one starts. -/
theorem daysBeforeMonth_add_le (year : Nat) {month later : Nat}
    (h : 1 ≤ month) (hlt : month < later) :
    daysBeforeMonth year month + daysInMonth year month
      ≤ daysBeforeMonth year later := by
  induction later with
  | zero => cases hlt
  | succ later ih =>
      have hlater := @daysBeforeMonth_succ year later
      rcases Nat.lt_succ_iff_lt_or_eq.1 hlt with hlt | rfl
      · have hle := ih hlt
        have hnext := hlater (by omega)
        omega
      · exact Nat.le_of_eq (hlater h).symm

/-- The months of a year make up the year. -/
theorem daysBeforeMonth_thirteen (year : Nat) :
    daysBeforeMonth year 13 = daysInYear year := by
  simp only [daysBeforeMonth, daysInMonth, daysInYear]
  split <;> rfl

/-- Walking over months ends inside a month, and the day stays the same. -/
theorem walkMonths_spec (year : Nat) {month n : Nat} (h : 1 ≤ month) :
    1 ≤ (walkMonths year month n).1
      ∧ (walkMonths year month n).2
        < daysInMonth year (walkMonths year month n).1
      ∧ daysBeforeMonth year (walkMonths year month n).1
          + (walkMonths year month n).2
        = daysBeforeMonth year month + n := by
  induction month, n using walkMonths.induct year with
  | case1 month n hlt =>
      rw [walkMonths, if_pos hlt]
      exact ⟨h, hlt, rfl⟩
  | case2 month n hge ih =>
      obtain ⟨hpos, hplace, hsum⟩ := ih (Nat.le_succ_of_le h)
      rw [walkMonths, if_neg hge]
      refine ⟨hpos, hplace, ?_⟩
      rw [hsum, daysBeforeMonth_succ year h]
      omega

-- =============================================================== dates

theorem Date.of_ofParts? {year month day : Nat} {d : Date}
    (h : ofParts? year month day = some d) :
    d.year = year ∧ d.month = month ∧ d.day = day := by
  unfold ofParts? at h
  split at h
  · cases h
    exact ⟨rfl, rfl, rfl⟩
  · cases h

/-- The year of a day number, as far as it is above zero, and the day's
place in it make up the number. -/
theorem yearOfDay_spec {n : Int} (h : 1 ≤ (yearOfDay n).1) :
    (daysBeforeYear (yearOfDay n).1.toNat : Int) + (yearOfDay n).2 = n := by
  obtain ⟨hpos, hplace, hsum⟩ :=
    @walkYears_spec 1 (n % daysInCycle).toNat (Nat.le_refl 1)
  have hnonneg : 0 ≤ n % daysInCycle := Int.emod_nonneg _ (by decide)
  have hlt : n % daysInCycle < daysInCycle :=
    Int.emod_lt_of_pos _ (by decide)
  have hzero : daysBeforeYear 1 = 0 := rfl
  revert h
  unfold yearOfDay
  generalize walkYears 1 (n % daysInCycle).toNat = found at *
  obtain ⟨year, place⟩ := found
  simp only at *
  intro h
  -- the year lies in the first cycle, so that no cycles are owed
  have hyear : year ≤ 400 := by
    refine Nat.le_of_not_lt fun hlarge => ?_
    have hle : daysBeforeYear 400 + daysInYear 400 ≤ daysBeforeYear year :=
      daysBeforeYear_add_le (by decide) (by omega)
    have hfull : daysBeforeYear 400 + daysInYear 400 = daysInCycle := by
      decide
    omega
  obtain ⟨k, hk⟩ : ∃ k : Nat, n / daysInCycle = k :=
    ⟨(n / daysInCycle).toNat, by omega⟩
  have hcycles : (400 * (n / daysInCycle) + year).toNat = 400 * k + year := by
    omega
  have hdivision : daysInCycle * (k : Int) + n % daysInCycle = n := by
    rw [← hk]
    exact Int.mul_ediv_add_emod n daysInCycle
  rw [hcycles, daysBeforeYear_cycle hpos]
  push_cast
  omega

/-- A date that is found for a day number has that number. -/
theorem Date.number_of_ofNumber {n : Int} {d : Date}
    (h : ofNumber n = .ok d) : (d.number : Int) = n := by
  unfold ofNumber at h
  simp only at h
  split at h
  · next date hdate =>
    cases h
    obtain ⟨hyear, hmonth, hday⟩ := of_ofParts? hdate
    have hpos := d.year_pos
    have hspec := yearOfDay_spec (n := n) (by omega)
    obtain ⟨-, -, hsum⟩ := @walkMonths_spec (yearOfDay n).1.toNat 1
      (yearOfDay n).2 (Nat.le_refl 1)
    have hzero : daysBeforeMonth (yearOfDay n).1.toNat 1 = 0 := rfl
    unfold number
    rw [hyear, hmonth, hday]
    omega
  · cases h

-- ============================================================ instants

theorem Clock.micros_ofMicros {n : Nat} (h : n < microsPerDay) :
    (ofMicros n).micros = n := by
  unfold microsPerDay at h
  show ((n / 1000000 / 3600 % 24 * 60 + n / 1000000 / 60 % 60) * 60
    + n / 1000000 % 60) * 1000000 + n % 1000000 = n
  omega

/-- The timestamp of an instant shows the instant. -/
theorem wallMicros_ofInstant {micros : Int} {t : Timestamp}
    (h : Timestamp.ofInstant micros = .ok t) : t.wallMicros = micros := by
  unfold Timestamp.ofInstant at h
  cases hdate : Date.ofNumber (micros / microsPerDay + unixDay) with
  | error year =>
      rw [hdate] at h
      cases h
  | ok date =>
      rw [hdate] at h
      cases h
      have hnumber := Date.number_of_ofNumber hdate
      have hnonneg : 0 ≤ micros % microsPerDay :=
        Int.emod_nonneg _ (by decide)
      have hlt : micros % microsPerDay < microsPerDay :=
        Int.emod_lt_of_pos _ (by decide)
      have hclock := @Clock.micros_ofMicros
        (micros % microsPerDay).toNat (by omega)
      show ((date.number : Int) - unixDay) * microsPerDay
        + (Clock.ofMicros (micros % microsPerDay).toNat).micros = micros
      rw [hclock, hnumber, Int.add_sub_cancel, Int.toNat_of_nonneg hnonneg,
        Int.mul_comm, Int.mul_ediv_add_emod]

end Logline.Calendar
