/-
The moment of a record. Between its seconds and the calendar stand the
limits of the machine, which are looked at before the calendar is. They
lie far outside of it, so they change what is told of seconds without a
date and turn no others away: seconds are a moment exactly where the
calendar has a date for their microseconds (`moment_eq_ok_iff`).
-/
import Logline.Proofs.Calendar.Chronology
import Logline.Proofs.Calendar.Readback
import Logline.Proofs.Chain
import Logline.Record

namespace Logline

open Calendar Number

/-- Instants of the calendar lie far inside of 64 bits. -/
theorem fitsBits_of_ofInstant {micros : Int} {t : Timestamp}
    (h : Timestamp.ofInstant micros = .ok t) :
    fitsBits 64 (micros / 1000000) = true := by
  have hwall := wallMicros_ofInstant h
  have hyear := daysBeforeYear_add_le t.date.year_pos
    (Nat.lt_succ_of_le t.date.year_le)
  have hlast : daysBeforeYear (Nat.succ 9999) = 3652059 := by decide
  have hday := t.date.yearDay_lt
  have hclock := t.clock.micros_lt
  unfold Timestamp.wallMicros at hwall
  rw [Date.number_eq] at hwall
  unfold microsPerDay at *
  unfold unixDay at hwall
  rw [fitsBits, Bool.and_eq_true, decide_eq_true_eq, decide_eq_true_eq]
  show -(9223372036854775808 : Int) ≤ micros / 1000000
    ∧ micros / 1000000 < 9223372036854775808
  omega

namespace Seconds

/-- Are so many microseconds what the seconds come to, and has the calendar
a date for them? -/
def IsInstant (s : Seconds) (micros : Int) : Prop :=
  s.micros = .ok micros ∧ (Timestamp.ofInstant micros).isOk = true

instance (s : Seconds) (micros : Int) : Decidable (s.IsInstant micros) :=
  inferInstanceAs (Decidable (_ ∧ _))

/-- Seconds are a moment exactly where their microseconds are. -/
theorem moment_eq_ok_iff {s : Seconds} {t : Timestamp} :
    s.moment = .ok t
      ↔ ∃ micros, s.micros = .ok micros
        ∧ Timestamp.ofInstant micros = .ok t := by
  unfold moment
  rw [bind_eq_ok_iff]
  refine exists_congr fun micros => and_congr_right fun _ => ?_
  cases hinstant : Timestamp.ofInstant micros with
  | ok found =>
      simp only [fitsBits_of_ofInstant hinstant]
      show Except.ok found = Except.ok t ↔ _
      rw [Except.ok.injEq, Except.ok.injEq]
  | error year =>
      refine ⟨fun h => ?_, (nomatch ·)⟩
      simp only at h
      split at h
      · cases h
      · split at h <;> cases h

theorem zone_of_moment {s : Seconds} {t : Timestamp}
    (h : s.moment = .ok t) : t.zone = some Zone.utc := by
  obtain ⟨micros, -, hinstant⟩ := moment_eq_ok_iff.1 h
  exact zone_of_ofInstant hinstant

end Seconds

end Logline
