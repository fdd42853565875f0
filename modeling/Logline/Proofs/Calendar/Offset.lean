/-
Offsets of whole minutes. Offsets are written in two ways: `offsetText`
goes down to the microsecond where it has to, and `showOffset` drops
everything below a minute. For an offset of whole minutes they write the
same sign, hours and minutes.

Zones that are read from a text have such offsets, fewer than a day of
minutes, and the name of a zone that is read is a matter of its offset.
So such a zone is read back from its offset alone, whether the offset is
written out or replaced by the letter for UTC.
-/
import Logline.Calendar.Reading
import Logline.Calendar.Reference
import Logline.Proofs.Text.Numeral

namespace Logline.Calendar

open Text

-- ================================================== writing an offset

/-- Hours and minutes after a sign, with a separator between them. -/
def signedMinutes (sign : Char) (sep : Text) (minutes : Nat) : Text :=
  sign :: zeroPadded 2 (minutes / 60) ++ sep ++ zeroPadded 2 (minutes % 60)

/-- An offset of whole minutes is shown without seconds. -/
theorem offsetText_of_minutes (sep : Text) {offset : Int}
    (h : offset % 60000000 = 0) :
    offsetText sep offset
      = signedMinutes (offsetSign offset) sep
        (offset.natAbs / 60000000) := by
  have hfraction : offset.natAbs % 1000000 = 0 := by omega
  have hseconds : offset.natAbs / 1000000 % 60 = 0 := by omega
  have hhours : offset.natAbs / 1000000 / 3600
      = offset.natAbs / 60000000 / 60 := by omega
  have hminutes : offset.natAbs / 1000000 / 60 % 60
      = offset.natAbs / 60000000 % 60 := by omega
  simp only [offsetText, hfraction, hseconds, ne_eq, not_true_eq_false,
    if_false, hhours, hminutes]
  rfl

theorem showOffset_plain (offset : Int) :
    showOffset .plain offset
      = signedMinutes (offsetSign offset) []
        (offset.natAbs / 60000000) := by
  simp only [showOffset, signedMinutes, List.append_nil]

theorem showOffset_colon (offset : Int) :
    showOffset .colon offset
      = signedMinutes (offsetSign offset) ":"
        (offset.natAbs / 60000000) := rfl

theorem of_mem_signedMinutes {sign : Char} {sep : Text} {minutes : Nat}
    {c : Char} (h : c ∈ signedMinutes sign sep minutes) :
    c = sign ∨ c ∈ sep ∨ c.isDigit = true := by
  unfold signedMinutes at h
  rcases List.mem_append.1 h with h | h
  · rcases List.mem_append.1 h with h | h
    · rcases List.mem_cons.1 h with h | h
      · exact .inl h
      · exact .inr (.inr (isDigit_of_mem_zeroPadded h))
    · exact .inr (.inl h)
  · exact .inr (.inr (isDigit_of_mem_zeroPadded h))

-- ==================================================== reading numerals

/-- Digits are read back as the number, whatever follows. -/
theorem readDigits_zeroPadded {places n : Nat} (hplaces : 0 < places)
    (h : n < 10 ^ places) (rest : Text) :
    readDigits places (zeroPadded places n ++ rest) = some (n, rest) := by
  have hlength := length_zeroPadded_of_lt hplaces h
  have htake : (zeroPadded places n ++ rest).take places
      = zeroPadded places n := List.take_left' hlength
  have hdrop : (zeroPadded places n ++ rest).drop places = rest :=
    List.drop_left' hlength
  have hdigits : (zeroPadded places n).all Char.isDigit = true :=
    List.all_eq_true.2 fun _ hc => isDigit_of_mem_zeroPadded hc
  simp only [readDigits, htake, hdrop, hlength, hdigits, and_self, if_true,
    toNat_zeroPadded]

-- ===================================================== reading an offset

/-- After a sign come hours and minutes, and nothing else. -/
theorem readZone_of_sign {c : Char} {west : Bool}
    (hsign : readSign? c = some west) {hours minutes : Nat}
    {rest after : Text} (hhours : readDigits 2 rest = some (hours, after))
    (hminutes : readDigits 2 ((readMark ':' after).getD after)
      = some (minutes, [])) (hlt : minutes < 60) :
    readZone (c :: rest)
      = (Zone.ofMinutes? west (hours * 60 + minutes)).map some := by
  unfold readZone
  split
  · next heq => cases heq
  · next heq => cases heq; cases hsign
  · next heq => cases heq; cases hsign
  · next heq =>
    cases heq
    simp only [hsign, hhours, hminutes, Option.bind_eq_bind,
      Option.bind_some, hlt, and_self, if_true]
    cases Zone.ofMinutes? west (hours * 60 + minutes) <;> rfl

/-- The colon between hours and minutes may be left out. -/
theorem readMark_getD_minutes {sep : Text} (hsep : sep = ":" ∨ sep = [])
    (minutes : Nat) :
    (readMark ':' (sep ++ zeroPadded 2 minutes)).getD
        (sep ++ zeroPadded 2 minutes)
      = zeroPadded 2 minutes := by
  rcases hsep with rfl | rfl
  · rfl
  · have hcolon : readMark ':' (zeroPadded 2 minutes) = none := by
      cases hdigits : zeroPadded 2 minutes with
      | nil => rfl
      | cons c rest =>
          have hc : c.isDigit = true :=
            isDigit_of_mem_zeroPadded (hdigits ▸ List.mem_cons_self)
          refine if_neg ?_
          rintro rfl
          cases hc
    rw [List.nil_append, hcolon]
    rfl

/-- Less than a day of minutes is read back with its sign, as the zone
that is so far away. -/
theorem readZone_signedMinutes {sign : Char} {west : Bool}
    (hsign : readSign? sign = some west) {sep : Text}
    (hsep : sep = ":" ∨ sep = []) {minutes : Nat} (h : minutes < 1440) :
    readZone (signedMinutes sign sep minutes)
      = (Zone.ofMinutes? west minutes).map some := by
  have hhours := readDigits_zeroPadded (n := minutes / 60) (by decide)
    (show _ < 10 ^ 2 by omega) (sep ++ zeroPadded 2 (minutes % 60))
  have hminutes := readDigits_zeroPadded (n := minutes % 60) (by decide)
    (show _ < 10 ^ 2 by omega) []
  rw [List.append_nil] at hminutes
  rw [← readMark_getD_minutes hsep] at hminutes
  have htotal : minutes / 60 * 60 + minutes % 60 = minutes := by omega
  have hsigned : signedMinutes sign sep minutes
      = sign :: (zeroPadded 2 (minutes / 60)
        ++ (sep ++ zeroPadded 2 (minutes % 60))) := by
    show sign :: _ ++ sep ++ _ = _
    rw [List.append_assoc]
    rfl
  rw [hsigned, readZone_of_sign hsign hhours hminutes
    (Nat.mod_lt _ (by decide)), htotal]

theorem readSign?_offsetSign (offset : Int) :
    readSign? (offsetSign offset) = some (decide (offset < 0)) := by
  unfold offsetSign
  split
  · next hneg => rw [decide_eq_true hneg]; rfl
  · next hneg => rw [decide_eq_false hneg]; rfl

-- ======================================================= zones as read

namespace Zone

/-- Zones as they are read: whole minutes from UTC, and named by that. -/
structure IsPlain (zone : Zone) : Prop where
  minutes : zone.offset % 60000000 = 0
  named : zone.name
    = if zone.offset = 0 then utc.name else offsetText ":" zone.offset

theorem isPlain_utc : IsPlain utc := ⟨rfl, rfl⟩

theorem ofOffset?_self (zone : Zone) :
    ofOffset? zone.offset zone.name = some zone :=
  dif_pos zone.offset_lt

theorem of_ofOffset? {offset : Int} {name : Text} {zone : Zone}
    (h : ofOffset? offset name = some zone) :
    zone.offset = offset ∧ zone.name = name := by
  unfold ofOffset? at h
  split at h
  · cases h
    exact ⟨rfl, rfl⟩
  · cases h

theorem isPlain_of_ofMinutes? {west : Bool} {minutes : Nat} {zone : Zone}
    (h : ofMinutes? west minutes = some zone) : IsPlain zone := by
  obtain ⟨hoffset, hname⟩ := of_ofOffset? h
  rw [← hoffset] at hname
  refine ⟨?_, hname⟩
  rw [hoffset]
  cases west <;> simp

theorem IsPlain.ofMinutes? {zone : Zone} (h : IsPlain zone) :
    ofMinutes? (zone.offset < 0) (zone.offset.natAbs / 60000000)
      = some zone := by
  have hoffset : (if decide (zone.offset < 0) = true then
        -((zone.offset.natAbs / 60000000 : Nat) * 60000000 : Int)
      else ((zone.offset.natAbs / 60000000 : Nat) * 60000000 : Int))
      = zone.offset := by
    have := h.minutes
    simp only [decide_eq_true_eq]
    split <;> omega
  simp only [Zone.ofMinutes?, hoffset, ← h.named]
  exact ofOffset?_self zone

/-- A plain zone at no distance is UTC. -/
theorem IsPlain.eq_utc {zone : Zone} (h : IsPlain zone)
    (hzulu : isZulu zone.offset = true) : zone = utc := by
  have hzero : zone.offset = 0 := by
    have := h.minutes
    have := of_decide_eq_true hzulu
    omega
  have hname : zone.name = utc.name := by
    rw [h.named, if_pos hzero]
  have hself := ofOffset?_self zone
  rw [hzero, hname] at hself
  exact (Option.some.inj hself).symm

end Zone

/-- A zone that is read is plain. -/
theorem isPlain_of_readZone {t : Text} {zone : Zone}
    (h : readZone t = some (some zone)) : zone.IsPlain := by
  unfold readZone at h
  split at h
  · cases h
  · cases h
    exact Zone.isPlain_utc
  · cases h
    exact Zone.isPlain_utc
  · simp only [Option.bind_eq_bind, Option.bind_eq_some_iff] at h
    obtain ⟨west, -, ⟨hours, rest⟩, -, ⟨minutes, after⟩, -, h⟩ := h
    split at h
    · obtain ⟨found, hfound, h⟩ := Option.bind_eq_some_iff.1 h
      cases h
      exact Zone.isPlain_of_ofMinutes? hfound
    · cases h

/-- A plain zone is read back from its offset. -/
theorem readZone_offset {zone : Zone} (h : zone.IsPlain) :
    readZone (signedMinutes (offsetSign zone.offset) ":"
      (zone.offset.natAbs / 60000000)) = some (some zone) := by
  have hlt : zone.offset.natAbs / 60000000 < 1440 := by
    have hday := zone.offset_lt
    unfold microsPerDay at hday
    omega
  rw [readZone_signedMinutes (readSign?_offsetSign zone.offset) (.inl rfl)
    hlt, h.ofMinutes?]
  rfl

end Logline.Calendar
