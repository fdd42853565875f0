/-
Offsets in a pattern. A zone is as far from UTC as a microsecond can tell,
but its tokens show whole minutes. What is below a minute is dropped from
the distance, and the sign is that of the offset itself, so an offset is
cut toward zero, and one of less than a minute to the west shows a zero
with a minus.

Six tokens show the offset in three forms. With a colon or without one the
minutes are shown, and such a text is read back as a zone, at the distance
that is left of the offset (`readZone_showOffset`). Since an offset of
whole minutes is left as it is, no two of them are shown alike.
-/
import Logline.Proofs.Calendar.Offset

namespace Logline.Calendar

open Text

-- ====================================================== what is left of it

/-- An offset cut to whole minutes, toward zero. -/
def wholeMinutes (offset : Int) : Int :=
  offset.tdiv 60000000 * 60000000

theorem wholeMinutes_of_minutes {offset : Int} (h : offset % 60000000 = 0) :
    wholeMinutes offset = offset :=
  Int.tdiv_mul_cancel (Int.dvd_of_emod_eq_zero h)

/-- The minutes are counted without the sign, which is put back. -/
theorem wholeMinutes_eq (offset : Int) :
    wholeMinutes offset
      = if offset < 0 then
          -(((offset.natAbs / 60000000 : Nat) : Int) * 60000000)
        else ((offset.natAbs / 60000000 : Nat) : Int) * 60000000 := by
  unfold wholeMinutes
  split
  · next hneg =>
    obtain ⟨n, rfl⟩ : ∃ n : Nat, offset = -(n : Int) :=
      ⟨offset.natAbs, by omega⟩
    rw [Int.neg_tdiv, Int.natAbs_neg, Int.natAbs_natCast, Int.neg_mul]
    rfl
  · next hpos =>
    obtain ⟨n, rfl⟩ : ∃ n : Nat, offset = n := ⟨offset.natAbs, by omega⟩
    rfl

theorem Zone.exists_ofMinutes? (west : Bool) {minutes : Nat}
    (h : minutes < 1440) :
    ∃ zone, Zone.ofMinutes? west minutes = some zone
      ∧ zone.offset
        = if west then -((minutes : Int) * 60000000)
          else (minutes : Int) * 60000000 := by
  have hday : (if west = true then -((minutes : Int) * 60000000)
      else (minutes : Int) * 60000000).natAbs < microsPerDay := by
    unfold microsPerDay
    split <;> omega
  exact ⟨_, dif_pos hday, rfl⟩

-- ======================================================== reading it back

/-- What shows the minutes is read back as a zone that is as far away as
whole minutes tell. -/
theorem readZone_showOffset {form : OffsetForm} (hform : form ≠ .hours)
    {offset : Int} (hday : offset.natAbs < microsPerDay) :
    ∃ zone, readZone (showOffset form offset) = some (some zone)
      ∧ zone.offset = wholeMinutes offset := by
  obtain ⟨sep, hsep, hshown⟩ : ∃ sep : Text, (sep = ":" ∨ sep = [])
      ∧ showOffset form offset
        = signedMinutes (offsetSign offset) sep
          (offset.natAbs / 60000000) := by
    cases form with
    | colon => exact ⟨":", .inl rfl, showOffset_colon offset⟩
    | plain => exact ⟨[], .inr rfl, showOffset_plain offset⟩
    | hours => exact absurd rfl hform
  have hlt : offset.natAbs / 60000000 < 1440 := by
    unfold microsPerDay at hday
    omega
  obtain ⟨zone, hzone, hoffset⟩ :=
    Zone.exists_ofMinutes? (decide (offset < 0)) hlt
  refine ⟨zone, ?_, ?_⟩
  · rw [hshown, readZone_signedMinutes (readSign?_offsetSign offset) hsep hlt,
      hzone]
    rfl
  · rw [hoffset, wholeMinutes_eq]
    simp only [decide_eq_true_eq]

namespace Timestamp

theorem natAbs_offset_lt (t : Timestamp) :
    t.offset.natAbs < microsPerDay := by
  unfold offset
  split
  · decide
  · next zone _ => exact zone.offset_lt

end Timestamp

variable (t : Timestamp)

theorem show_offset (zulu : Bool) (form : OffsetForm) :
    (Token.offset zulu form).show t
      = if zulu && isZulu t.offset then ['Z']
        else showOffset form t.offset :=
  rfl

theorem readZone_show {zulu : Bool} {form : OffsetForm}
    (hform : form ≠ .hours) :
    ∃ zone, readZone ((Token.offset zulu form).show t) = some (some zone)
      ∧ zone.offset = wholeMinutes t.offset := by
  rw [show_offset]
  split
  · next hletter =>
    have hzero : t.offset.natAbs / 60000000 = 0 :=
      of_decide_eq_true (Bool.and_eq_true_iff.1 hletter).2
    refine ⟨Zone.utc, rfl, ?_⟩
    rw [wholeMinutes_eq, hzero]
    split <;> rfl
  · exact readZone_showOffset hform t.natAbs_offset_lt

/-- Offsets of whole minutes that are shown alike are equal. -/
theorem offset_eq_of_show_eq {t u : Timestamp} {zulu : Bool}
    {form : OffsetForm} (hform : form ≠ .hours)
    (ht : t.offset % 60000000 = 0) (hu : u.offset % 60000000 = 0)
    (h : (Token.offset zulu form).show t = (Token.offset zulu form).show u) :
    t.offset = u.offset := by
  obtain ⟨zone, hzone, hoffset⟩ := readZone_show t hform
  obtain ⟨zone', hzone', hoffset'⟩ := readZone_show u hform
  rw [h, hzone'] at hzone
  cases hzone
  rw [← wholeMinutes_of_minutes ht, ← wholeMinutes_of_minutes hu, ← hoffset,
    hoffset']

-- ====================================================== tokens of offsets

/-- Is a text a number in two digits? -/
def IsTwoDigits (digits : Text) (n : Nat) : Prop :=
  digits.length = 2 ∧ (∀ c ∈ digits, c.isDigit = true)
    ∧ Text.toNat digits = n

theorem isTwoDigits_zeroPadded {n : Nat} (h : n < 100) :
    IsTwoDigits (zeroPadded 2 n) n :=
  ⟨length_zeroPadded_of_lt (by decide) h,
    fun _ hc => isDigit_of_mem_zeroPadded hc, toNat_zeroPadded 2 n⟩

/-- The words for offsets are tokens by themselves. -/
theorem split_word_offset (zulu : Bool) (form : OffsetForm) :
    split (Token.offset zulu form).word = [.token (.offset zulu form)] := by
  cases zulu <;> cases form <;> decide +kernel

theorem formatReference_word_offset (zulu : Bool) (form : OffsetForm) :
    formatReference t (Token.offset zulu form).word
      = (Token.offset zulu form).show t := by
  unfold formatReference
  rw [split_word_offset, List.flatMap_singleton]
  rfl

theorem showOffset_ne_letter (form : OffsetForm) (offset : Int) :
    showOffset form offset ≠ ['Z'] := by
  intro h
  have hhead : (showOffset form offset).head? = some (offsetSign offset) := by
    cases form <;> rfl
  rw [h, List.head?_cons, offsetSign] at hhead
  split at hhead <;> cases hhead

/-- The letter stands for less than a minute, and nothing else is shown as
the letter. -/
theorem show_zulu_eq_letter_iff (form : OffsetForm) :
    (Token.offset true form).show t = ['Z']
      ↔ t.offset.natAbs / 60000000 = 0 := by
  rw [show_offset, Bool.true_and]
  constructor
  · intro h
    split at h
    · next hzulu => exact of_decide_eq_true hzulu
    · exact absurd h (showOffset_ne_letter form t.offset)
  · intro h
    exact if_pos (decide_eq_true h)

theorem show_zulu_of_ne_zero (form : OffsetForm)
    (h : t.offset.natAbs / 60000000 ≠ 0) :
    (Token.offset true form).show t = (Token.offset false form).show t := by
  have hzulu : isZulu t.offset = false := decide_eq_false h
  rw [show_offset, show_offset, hzulu, Bool.and_false, Bool.and_false]

/-- An offset is shown by its sign and the whole minutes that it is away
from UTC, of which hours and minutes have two digits each. The letter that
three tokens may show stands for less than a minute, and else they show
what the other three show. What shows the minutes is read back as the
offset cut toward zero, and offsets of whole minutes that are shown alike
are equal. A token shows in a pattern what it shows by itself. -/
theorem formatReference_offset_exact (t : Timestamp) :
    (∃ sign : Char, ∃ hours minutes : Text,
      (sign = if t.offset < 0 then '-' else '+')
        ∧ IsTwoDigits hours (t.offset.natAbs / 60000000 / 60)
        ∧ IsTwoDigits minutes (t.offset.natAbs / 60000000 % 60)
        ∧ formatReference t "-07:00" = sign :: (hours ++ ':' :: minutes)
        ∧ formatReference t "-0700" = sign :: (hours ++ minutes)
        ∧ formatReference t "-07" = sign :: hours)
      ∧ (∀ form,
        (formatReference t (Token.offset true form).word = ['Z']
            ↔ t.offset.natAbs / 60000000 = 0)
          ∧ (t.offset.natAbs / 60000000 ≠ 0 →
            formatReference t (Token.offset true form).word
              = formatReference t (Token.offset false form).word))
      ∧ (∀ zulu form, form ≠ .hours →
        (∃ zone, readZone (formatReference t (Token.offset zulu form).word)
            = some (some zone) ∧ zone.offset = wholeMinutes t.offset)
          ∧ ∀ u : Timestamp, t.offset % 60000000 = 0 →
            u.offset % 60000000 = 0 →
            formatReference t (Token.offset zulu form).word
              = formatReference u (Token.offset zulu form).word →
            t.offset = u.offset)
      ∧ ∀ zulu form pattern before after,
        split pattern = before ++ .token (.offset zulu form) :: after →
        formatReference t pattern
          = before.flatMap (Chunk.show t)
            ++ (formatReference t (Token.offset zulu form).word
              ++ after.flatMap (Chunk.show t)) := by
  simp only [formatReference_word_offset]
  refine ⟨⟨_, _, _, rfl, isTwoDigits_zeroPadded ?_, isTwoDigits_zeroPadded ?_,
      ?_, ?_, ?_⟩, ?_, ?_, ?_⟩
  · have hday := t.natAbs_offset_lt
    unfold microsPerDay at hday
    omega
  · omega
  · refine (formatReference_word_offset t false .colon).trans ?_
    exact List.append_assoc (_ :: zeroPadded 2 _) [':'] _
  · exact formatReference_word_offset t false .plain
  · exact formatReference_word_offset t false .hours
  · exact fun form =>
      ⟨show_zulu_eq_letter_iff t form, show_zulu_of_ne_zero t form⟩
  · exact fun zulu form hform =>
      ⟨readZone_show t hform, fun u => offset_eq_of_show_eq hform⟩
  · intro zulu form pattern before after hsplit
    unfold formatReference
    rw [hsplit, List.flatMap_append, List.flatMap_cons]
    rfl

/-- Half an hour to the west and a bit more: the sign stays, the bit is
dropped, and so the half hour is read back. -/
theorem formatReference_offset_exact_west :
    let t : Timestamp :=
      ⟨.mk 2025 12 30, .midnight, some ⟨-1859999999, "", by decide⟩⟩
    formatReference t "-07:00" = "-00:30"
      ∧ formatReference t "Z0700" = "-0030"
      ∧ ∃ zone, readZone "-0030" = some (some zone)
        ∧ zone.offset = -1800000000 := by
  intro t
  obtain ⟨-, hletter, hread, -⟩ := formatReference_offset_exact t
  have hplain : formatReference t (Token.offset false .plain).word
      = "-0030" := by decide +kernel
  have hsame := (hletter .plain).2 (by decide)
  obtain ⟨⟨zone, hzone, hoffset⟩, -⟩ := hread false .plain nofun
  rw [hplain] at hzone hsame
  exact ⟨by decide +kernel, hsame, zone, hzone, hoffset⟩

end Logline.Calendar
