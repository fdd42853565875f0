/-
Reference patterns as directive patterns. Most tokens of a reference
pattern have a directive that shows the same, so a pattern of such tokens
and of literal text can be translated: token by token, and the literal
text with its percent signs doubled.

The two vocabularies agree where a token's own rule and its directive's
do. A year is written in four places by the one and as it is by the
other, so it needs four digits; an offset is cut to minutes by the one
only; and a zone's abbreviation is its name unless the name is missing or
is a distance from UTC. Within these bounds each translated part shows
what the part shows (`Chunk.shows`), and a pattern is the row of its
parts.
-/
import Logline.Calendar.Style
import Logline.Proofs.Calendar.Directives
import Logline.Proofs.Calendar.Fraction
import Logline.Proofs.Calendar.Offset

namespace Logline.Calendar

open Text

-- ====================================================== the translation

/-- The tokens that have directives, and the directives. -/
def Token.directives : List (Token × Text) := [
  (year, "%Y"),
  (yearShort, "%y"),
  (monthName, "%B"),
  (monthShort, "%b"),
  (monthTwo, "%m"),
  (month, "%-m"),
  (weekdayName, "%A"),
  (weekdayShort, "%a"),
  (dayTwo, "%d"),
  (dayBlank, "%e"),
  (day, "%-d"),
  (hour, "%H"),
  (dialTwo, "%I"),
  (dial, "%-I"),
  (minuteTwo, "%M"),
  (minute, "%-M"),
  (secondTwo, "%S"),
  (second, "%-S"),
  (halfUpper, "%p"),
  (halfLower, "%P"),
  (zoneName, "%Z"),
  (offset false .plain, "%z"),
  (fraction false 6, ".%f")]

/-- Can a part of a reference pattern be translated? -/
def Chunk.isTranslatable : Chunk → Bool
  | literal _ => true
  | token found => (Token.directives.map Prod.fst).contains found

/-- A part of a reference pattern as directives; nothing if it cannot be
translated. -/
def Chunk.directives : Chunk → Text
  | literal t => doublePercents t
  | token found => (Token.directives.lookup found).getD []

def translate (pattern : Text) : Text :=
  (split pattern).flatMap Chunk.directives

-- ============================================================== bounds

theorem length_getD_le {names : List Text} {bound : Nat}
    (h : ∀ name ∈ names, name.length ≤ bound) (i : Nat) :
    (names.getD i []).length ≤ bound := by
  rw [List.getD_eq_getElem?_getD]
  cases hi : names[i]? with
  | none => exact Nat.zero_le bound
  | some name => exact h name (List.mem_of_getElem? hi)

theorem length_monthName_le (d : Date) : d.monthName.length ≤ 9 :=
  length_getD_le (by decide) _

theorem length_weekdayName_le (d : Date) : d.weekdayName.length ≤ 9 :=
  length_getD_le (by decide) _

-- ==================================================== zone and fraction

section Zone

variable {t : Timestamp} {zone : Zone} (hzone : t.zone = some zone)
include hzone

theorem showZoneName_eq_name (hname : zone.name ≠ [])
    (hown : zone.name = "UTC" ∨ zone.name.startsWith "UTC" = false) :
    showZoneName t = zone.name := by
  have hnumeric : (zone.name.startsWith "UTC"
      && zone.name ≠ ("UTC" : Text)) = false := by
    rcases hown with hutc | hother
    · rw [hutc]
      rfl
    · rw [hother]
      rfl
  simp only [showZoneName, hzone, if_neg hname]
  rw [hnumeric]
  rfl

/-- The directive for the name of a zone shows the name, percent signs
and all. -/
theorem shows_zoneName : Shows t "%Z" zone.name := by
  refine .putIn ?_
  intro rest
  have hput : putZones t ("%Z" ++ rest)
      = doublePercents (zoneField t) ++ putZones t rest := rfl
  rw [hput, zoneField, hzone]

/-- The directive for the offset shows whole minutes as the token does. -/
theorem shows_offset (hminutes : zone.offset % 60000000 = 0) :
    Shows t "%z" (showOffset .plain t.offset) := by
  have hoffset : t.offset = zone.offset := by
    rw [Timestamp.offset, hzone]
  have hfield : offsetField t = showOffset .plain t.offset := by
    rw [offsetField, hzone, hoffset, showOffset_plain]
    exact offsetText_of_minutes [] hminutes
  have hplain : '%' ∉ showOffset .plain t.offset := by
    rw [showOffset_plain]
    intro h
    rcases of_mem_signedMinutes h with hsign | hsep | hdigit
    · unfold offsetSign at hsign
      split at hsign <;> cases hsign
    · cases hsep
    · cases hdigit
  refine .putIn ?_
  intro rest
  rw [doublePercents_of_not_mem hplain, ← hfield]
  rfl

end Zone

theorem shows_fraction (t : Timestamp) :
    Shows t ".%f" (showFraction false 6 t.clock.micro) := by
  have hdigits : '%' ∉ zeroPadded 6 t.clock.micro := fun h => by
    cases isDigit_of_mem_zeroPadded h
  have hfield : Shows t "%f" (zeroPadded 6 t.clock.micro) := by
    refine .putIn ?_
    intro rest
    rw [doublePercents_of_not_mem hdigits]
    rfl
  rw [showFraction_six]
  exact (Shows.literal t ['.']).append hfield

-- ============================================================== the table

theorem show_halfLower (t : Timestamp) :
    Token.halfLower.show t = lower (halfDay t.clock) := by
  simp only [Token.show, halfDay]
  cases t.clock.isAfternoon <;> decide

/-- Within the bounds in which the vocabularies agree, a directive of the
table shows what its token shows. -/
theorem shows_of_mem_directives {t : Timestamp} {zone : Zone}
    (hyear : 1000 ≤ t.date.year) (hzone : t.zone = some zone)
    (hminutes : zone.offset % 60000000 = 0) (hname : zone.name ≠ [])
    (hown : zone.name = "UTC" ∨ zone.name.startsWith "UTC" = false)
    {entry : Token × Text} (h : entry ∈ Token.directives) :
    Shows t entry.2 (entry.1.show t) := by
  have hlast := t.date.year_le
  have hmonth := t.date.month_le
  have hday := t.date.day_lt
  have hhour := t.clock.hour_lt
  have hdial := t.clock.dialHour_lt
  have hminute := t.clock.minute_lt
  have hsecond := t.clock.second_lt
  have hmonthName : t.date.monthName.length ≤ 255 := by
    have := length_monthName_le t.date
    omega
  have hweekdayName : t.date.weekdayName.length ≤ 255 := by
    have := length_weekdayName_le t.date
    omega
  have hhalf : (halfDay t.clock).length ≤ 255
      ∧ (lower (halfDay t.clock)).length ≤ 255 := by
    unfold halfDay
    cases t.clock.isAfternoon <;> decide
  have hshort {name : Text} (hname : name.length ≤ 255) :
      (name.take 3).length ≤ 255 :=
    Nat.le_trans (List.length_take_le' 3 name) hname
  simp only [Token.directives, List.mem_cons, List.not_mem_nil, or_false]
    at h
  rcases h with rfl | rfl | rfl | rfl | rfl | rfl | rfl | rfl | rfl | rfl |
    rfl | rfl | rfl | rfl | rfl | rfl | rfl | rfl | rfl | rfl | rfl | rfl |
    rfl
  · -- the year, which has its four digits either way
    have hfour : zeroPadded (3 + 1) t.date.year = ofNat t.date.year :=
      zeroPadded_eq_ofNat hyear
    have hone : zeroPadded (0 + 1) t.date.year = ofNat t.date.year :=
      zeroPadded_eq_ofNat t.date.year_pos
    show Shows t ['%', 'Y'] (zeroPadded (3 + 1) t.date.year)
    rw [hfour, ← hone]
    exact .number (fun _ => rfl) rfl rfl (by decide) (by omega)
  · exact .number (fun _ => rfl) rfl rfl (by decide) (by omega)
  · exact .word (fun _ => rfl) rfl rfl hmonthName
  · exact .word (fun _ => rfl) rfl rfl (hshort hmonthName)
  · exact .number (fun _ => rfl) rfl rfl (by decide) (by omega)
  · exact .unfilled (fun _ => rfl) rfl rfl (by omega)
  · exact .word (fun _ => rfl) rfl rfl hweekdayName
  · exact .word (fun _ => rfl) rfl rfl (hshort hweekdayName)
  · exact .number (fun _ => rfl) rfl rfl (by decide) (by omega)
  · exact .blankNumber (fun _ => rfl) rfl rfl (by decide) (by omega)
  · exact .unfilled (fun _ => rfl) rfl rfl (by omega)
  · exact .number (fun _ => rfl) rfl rfl (by decide) (by omega)
  · exact .number (fun _ => rfl) rfl rfl (by decide) (by omega)
  · exact .unfilled (fun _ => rfl) rfl rfl (by omega)
  · exact .number (fun _ => rfl) rfl rfl (by decide) (by omega)
  · exact .unfilled (fun _ => rfl) rfl rfl (by omega)
  · exact .number (fun _ => rfl) rfl rfl (by decide) (by omega)
  · exact .unfilled (fun _ => rfl) rfl rfl (by omega)
  · exact .word (fun _ => rfl) rfl rfl hhalf.1
  · show Shows t ['%', 'P'] (Token.halfLower.show t)
    rw [show_halfLower]
    exact .small (fun _ => rfl) rfl rfl hhalf.2
  · show Shows t "%Z" (showZoneName t)
    rw [showZoneName_eq_name hzone hname hown]
    exact shows_zoneName hzone
  · exact shows_offset hzone hminutes
  · exact shows_fraction t

-- =========================================================== the pattern

section Pattern

variable {t : Timestamp} {zone : Zone}
  (hyear : 1000 ≤ t.date.year) (hzone : t.zone = some zone)
  (hminutes : zone.offset % 60000000 = 0) (hname : zone.name ≠ [])
  (hown : zone.name = "UTC" ∨ zone.name.startsWith "UTC" = false)
include hyear hzone hminutes hname hown

/-- A translated part shows what the part shows. -/
theorem Chunk.shows {chunk : Chunk} (h : chunk.isTranslatable = true) :
    Shows t chunk.directives (chunk.show t) := by
  cases chunk with
  | literal s => exact .literal t s
  | token found =>
      have hlookup : ∀ entry ∈ Token.directives,
          Token.directives.lookup entry.1 = some entry.2 := by decide
      obtain ⟨entry, hentry, rfl⟩ :=
        List.mem_map.1 (List.contains_iff_mem.1 h)
      have hshows := shows_of_mem_directives hyear hzone hminutes hname hown
        hentry
      rw [Chunk.directives, hlookup entry hentry]
      exact hshows

theorem shows_flatMap {chunks : List Chunk}
    (h : ∀ chunk ∈ chunks, chunk.isTranslatable = true) :
    Shows t (chunks.flatMap Chunk.directives)
      (chunks.flatMap (Chunk.show t)) := by
  induction chunks with
  | nil => exact .nil
  | cons chunk chunks ih =>
      have hchunk := Chunk.shows hyear hzone hminutes hname hown
        (h chunk List.mem_cons_self)
      have hrest := ih fun c hc => h c (List.mem_cons_of_mem chunk hc)
      exact hchunk.append hrest

end Pattern

/-- A reference pattern whose tokens all have directives is written like
the directive pattern that it is translated to: for every timestamp whose
year has four digits and whose zone is whole minutes from UTC and has a
name of its own. -/
theorem formatReference_eq_formatDirectives {pattern : Text}
    (hpattern : ∀ chunk ∈ split pattern, chunk.isTranslatable = true)
    {t : Timestamp} {zone : Zone} (hyear : 1000 ≤ t.date.year)
    (hzone : t.zone = some zone) (hminutes : zone.offset % 60000000 = 0)
    (hname : zone.name ≠ [])
    (hown : zone.name = "UTC" ∨ zone.name.startsWith "UTC" = false) :
    formatReference t pattern = formatDirectives t (translate pattern) :=
  (shows_flatMap hyear hzone hminutes hname hown
    hpattern).formatDirectives.symm

/-- Half past noon, three and a half hours west of Greenwich: the dial,
bare numbers, the half of the day, an offset to the west, and percent
signs in the zone's name and in the pattern itself. -/
theorem formatReference_eq_formatDirectives_west :
    translate "3:04 PM, Jan _2 MST -0700 (%)"
        = "%-I:%M %p, %b %e %Z %z (%%)"
      ∧ formatReference
        ⟨.mk 2006 1 2, .mk 12 30 5 42,
          some ⟨-12600000000, "N%T", by decide⟩⟩
        "3:04 PM, Jan _2 MST -0700 (%)"
      = formatDirectives
        ⟨.mk 2006 1 2, .mk 12 30 5 42,
          some ⟨-12600000000, "N%T", by decide⟩⟩
        "%-I:%M %p, %b %e %Z %z (%%)" := by
  have htranslate : translate "3:04 PM, Jan _2 MST -0700 (%)"
      = "%-I:%M %p, %b %e %Z %z (%%)" := by decide +kernel
  have htokens : ∀ chunk ∈ split "3:04 PM, Jan _2 MST -0700 (%)",
      chunk.isTranslatable = true := by decide +kernel
  refine ⟨htranslate, ?_⟩
  rw [← htranslate]
  exact formatReference_eq_formatDirectives htokens (by decide) rfl
    (by decide) (by decide) (.inr (by decide))

end Logline.Calendar
