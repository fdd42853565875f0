/-
The canonical timestamp. Whatever a timestamp is given as, the render
tool can write it in full: the line of the canonical layout in the
reference vocabulary. That line is a timestamp again, and no request can
tell it from the one it was made of. So the two say the same, nothing is
lost by writing one in full, and writing it in full once more changes
nothing.

The reason is that a timestamp which is accepted has only as much in it
as the canonical text shows. Its fraction ends with the microseconds, its
zone, once UTC has been put in for none, is whole minutes away, and the
zone's name is made of its offset.
-/
import Logline.Proofs.Calendar.Readback
import Logline.Proofs.Layout.Roundtrip
import Logline.Proofs.Rendering
import Logline.Proofs.Tool.Line

namespace Logline

open Calendar Layout

-- ================================================= accepted timestamps

theorem isPlain_of_ofInteger {n : Int} {t : Timestamp}
    (h : Timestamp.ofInteger n = .ok t) : t.IsPlain := by
  unfold Timestamp.ofInteger at h
  split at h
  · exact isPlain_of_atInstant h
  · cases h
  · cases h

theorem isPlain_of_ofDouble {d : Number.Binary64} {t : Timestamp}
    (h : Timestamp.ofDouble d = .ok t) : t.IsPlain := by
  unfold Timestamp.ofDouble at h
  split at h
  · exact isPlain_of_atInstant h
  · cases h

/-- Whatever a timestamp is given as, its zone is as zones are read. -/
theorem isPlain_of_momentOfValue {v : Value} {t : Timestamp}
    (h : momentOfValue v = .ok (some t)) : t.IsPlain := by
  cases v with
  | text s =>
      obtain ⟨found, hread, hsome⟩ := map_eq_ok_iff.1 h
      cases hsome
      exact isPlain_of_ofText hread
  | int n =>
      obtain ⟨found, hread, hsome⟩ := map_eq_ok_iff.1 h
      cases hsome
      exact isPlain_of_ofInteger hread
  | double d =>
      obtain ⟨found, hread, hsome⟩ := map_eq_ok_iff.1 h
      cases hsome
      exact isPlain_of_ofDouble hread
  | null => cases h
  | bool b => cases h
  | list items => cases h
  | object fields => cases h

theorem Calendar.Timestamp.IsPlain.exists_zone {t : Timestamp}
    (h : t.IsPlain) :
    ∃ zone, (t.withDefaultZone Zone.utc).zone = some zone
      ∧ zone.IsPlain := by
  cases hzone : t.zone with
  | none =>
      refine ⟨Zone.utc, ?_, Zone.isPlain_utc⟩
      rw [Timestamp.withDefaultZone, hzone]
      rfl
  | some zone =>
      refine ⟨zone, ?_, h zone hzone⟩
      rw [Timestamp.withDefaultZone, hzone]
      rfl

/-- The canonical text of an accepted timestamp is accepted, as the moment
in UTC if it had no zone. -/
theorem momentOfValue_canonicalText {v : Value} {t : Timestamp}
    (h : momentOfValue v = .ok (some t)) :
    momentOfValue (.text (canonicalText (t.withDefaultZone Zone.utc)))
      = .ok (some (t.withDefaultZone Zone.utc)) := by
  obtain ⟨zone, hzone, hplain⟩ := (isPlain_of_momentOfValue h).exists_zone
  rw [momentOfValue, ofText_canonicalText hzone hplain]
  rfl

-- =================================================== canonical requests

/-- The layout that shows a timestamp by the canonical pattern. -/
def canonicalLayout : Text :=
  "%d\x7b" ++ canonicalPattern ++ "\x7d"

theorem compile_canonicalLayout :
    compile canonicalLayout
      = .ok ⟨[⟨.timestamp, canonicalPattern⟩], canonicalLayout⟩ := by
  have hnormal : NormalForm [⟨.timestamp, canonicalPattern⟩] := by decide
  have hunparse : unparse [⟨.timestamp, canonicalPattern⟩]
      = canonicalLayout := rfl
  rw [← hunparse]
  exact compile_unparse hnormal

namespace RenderRequest

/-- Does a request ask for a timestamp in full? The other fields of the
event may be anything. -/
structure IsCanonical (r : RenderRequest) (timestamp : Value) : Prop where
  layout_eq : r.layout = canonicalLayout
  dateStyle_eq : r.dateStyle = .text DateStyle.reference.name
  timestamp_eq : r.event.timestamp = timestamp

variable {r : RenderRequest} {v : Value} {t now : Timestamp}
  {env : Environment} {config : Config}

namespace IsCanonical

theorem styled (hr : r.IsCanonical v) (resolved : Config) :
    r.styled resolved
      = .ok { resolved with dateStyle := DateStyle.reference.name } := by
  have hstyle : readStyle? DateStyle.reference.name = some .reference := by
    decide
  simp only [RenderRequest.styled, hr.dateStyle_eq, hstyle]
  rfl

variable (hr : r.IsCanonical v) (h : momentOfValue v = .ok (some t))
include hr h

/-- What is rendered for a canonical request, once its steps before have
their results. -/
theorem render_eq {resolved styled : Config} {checked : CheckedEvent}
    {template : Template} {event : Event} {renderer : Renderer}
    (hstyled : r.styled resolved = .ok styled)
    (hchecked : r.event.check = .ok checked)
    (htemplate : compile r.layout = .ok template)
    (hevent : eventOf now styled.levelNames checked = .ok event)
    (hrenderer : Renderer.ofConfig styled = .ok renderer) :
    renderer.render event template
      = .ok (canonicalText (t.withDefaultZone Zone.utc)) := by
  have hmoment : event.timestamp = t.withDefaultZone Zone.utc := by
    have hasked := moment_of_check hchecked
    rw [hr.timestamp_eq, h] at hasked
    rw [timestamp_of_eventOf hevent, ← Except.ok.inj hasked]
    rfl
  have hreference : renderer.style = .reference := by
    rw [hr.styled] at hstyled
    cases hstyled
    rw [Renderer.ofConfig_of_ofName? (DateStyle.ofName?_name .reference)]
      at hrenderer
    cases hrenderer
    rfl
  rw [hr.layout_eq, compile_canonicalLayout] at htemplate
  cases htemplate
  rw [Renderer.render_date, hmoment, hreference]
  rfl

/-- A canonical request that is answered with a line is answered with the
canonical text. -/
theorem line_eq {line : Text} (hline : r.line now env config = .ok line) :
    line = canonicalText (t.withDefaultZone Zone.utc) := by
  obtain ⟨resolved, -, styled, hstyled, checked, hchecked, template,
    htemplate, event, hevent, renderer, hrenderer, hline⟩ :=
    line_eq_ok_iff.1 hline
  rw [hr.render_eq h hstyled hchecked htemplate hevent hrenderer] at hline
  exact (Except.ok.inj hline).symm

/-- A canonical request is answered with a line when the environment can
be used, the other fields are right and the level is found. -/
theorem line_eq_ok {resolved : Config} {checked : CheckedEvent} {n : Int}
    (hresolved : config.resolve env = .ok resolved)
    (hchecked : r.event.check = .ok checked)
    (hlevel : checked.level.resolve resolved.levelNames = .ok n) :
    r.line now env config
      = .ok (canonicalText (t.withDefaultZone Zone.utc)) := by
  have hstyled := hr.styled resolved
  have htemplate := compile_canonicalLayout
  rw [← hr.layout_eq] at htemplate
  obtain ⟨event, hevent⟩ : ∃ event,
      eventOf now resolved.levelNames checked = .ok event := by
    unfold eventOf
    rw [hlevel]
    exact ⟨_, rfl⟩
  have hknown : DateStyle.ofName?
      { resolved with dateStyle := DateStyle.reference.name }.dateStyle
        = some .reference := DateStyle.ofName?_name .reference
  have hrenderer := Renderer.ofConfig_of_ofName? hknown
  rw [line_eq_render hresolved hstyled hchecked htemplate hevent hrenderer,
    hr.render_eq h hstyled hchecked htemplate hevent hrenderer]
  rfl

end IsCanonical

end RenderRequest

-- ================================================= the canonical text

/-- Every accepted timestamp has a canonical text. It is what every
canonical request for the timestamp that is answered with a line is
answered with, and such a request is answered with a line whenever its
other parts are right. The text is an accepted timestamp itself, no
request tells it from the timestamp, and it is its own canonical text. -/
theorem canonical_exact {v : Value} {t : Timestamp}
    (h : momentOfValue v = .ok (some t)) :
    ∃ canonical : Text,
      (∀ (r : RenderRequest) (now : Timestamp) (env : Environment)
          (config : Config), r.IsCanonical v →
        (∀ line, r.line now env config = .ok line → line = canonical)
        ∧ ∀ resolved checked n, config.resolve env = .ok resolved →
          r.event.check = .ok checked →
          checked.level.resolve resolved.levelNames = .ok n →
          r.line now env config = .ok canonical)
      ∧ (∃ moment, momentOfValue (.text canonical) = .ok (some moment))
      ∧ (∀ (r : RenderRequest) (now : Timestamp) (env : Environment)
          (config : Config),
        (r.withTimestamp (.text canonical)).line now env config
          = (r.withTimestamp v).line now env config)
      ∧ ∀ (r : RenderRequest) (now : Timestamp) (env : Environment)
          (config : Config), r.IsCanonical (.text canonical) →
        ∀ line, r.line now env config = .ok line → line = canonical := by
  have hread := momentOfValue_canonicalText h
  have hsame : (t.withDefaultZone Zone.utc).withDefaultZone Zone.utc
      = t.withDefaultZone Zone.utc := rfl
  refine ⟨canonicalText (t.withDefaultZone Zone.utc), ?_, ⟨_, hread⟩, ?_,
    ?_⟩
  · intro r now env config hr
    refine ⟨fun line hline => hr.line_eq h hline, ?_⟩
    intro resolved checked n hresolved hchecked hlevel
    exact hr.line_eq_ok h hresolved hchecked hlevel
  · intro r now env config
    exact r.line_congr_moment hread h hsame
  · intro r now env config hr line hline
    rw [hr.line_eq hread hline, hsame]

/-- Half an hour west of Greenwich, with a blank for a separator and one
place of a fraction: the canonical text, which a request for the zone does
not tell from the timestamp. -/
theorem canonical_exact_west :
    momentOfValue (.text "2025-12-30 08:12:04.5-00:30")
        = .ok (some ⟨.mk 2025 12 30, .mk 8 12 4 500000,
          some ⟨-1800000000, "-00:30", by decide⟩⟩)
      ∧ ∀ now, (⟨"%d\x7b%z %Z\x7d", ⟨.text "root", .int 3, .text [],
          .text "2025-12-30T08:12:04.500000-00:30"⟩, .null⟩
            : RenderRequest).line now .empty {}
        = (⟨"%d\x7b%z %Z\x7d", ⟨.text "root", .int 3, .text [],
          .text "2025-12-30 08:12:04.5-00:30"⟩, .null⟩
            : RenderRequest).line now .empty {} := by
  have hmoment : momentOfValue (.text "2025-12-30 08:12:04.5-00:30")
      = .ok (some ⟨.mk 2025 12 30, .mk 8 12 4 500000,
        some ⟨-1800000000, "-00:30", by decide⟩⟩) := by decide +kernel
  obtain ⟨canonical, hcanonical, -, hsame, -⟩ := canonical_exact hmoment
  have hline : (⟨canonicalLayout, ⟨.text "root", .int 3, .text [],
      .text "2025-12-30 08:12:04.5-00:30"⟩,
        .text DateStyle.reference.name⟩ : RenderRequest).line .first .empty {}
      = .ok "2025-12-30T08:12:04.500000-00:30" := by decide +kernel
  cases (hcanonical _ _ _ _ ⟨rfl, rfl, rfl⟩).1 _ hline
  refine ⟨hmoment, fun now => ?_⟩
  exact hsame ⟨"%d\x7b%z %Z\x7d", ⟨.text "root", .int 3, .text [], .null⟩,
    .null⟩ now _ _

end Logline
