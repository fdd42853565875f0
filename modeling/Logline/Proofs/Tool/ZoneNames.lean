/-
The abbreviation of a zone that has none. A zone without a name of its
own is named after its offset, and where a date shows an abbreviation the
offset is to be shown, as sign, hours and minutes. Two sorts of such names
are about. Zones that are made of an offset are called by their distance
from UTC, and these names are known for what they are. Zones that are read
with a timestamp are called by the offset alone, and these names are taken
for abbreviations: they are shown as they stand, with a colon.

So a date of a request comes out one character longer for every
abbreviation in it than the same date in the other sort of zone. All
other tokens look at the offset and not at the name. A line is then the
same for both sorts exactly when no date in it shows an abbreviation
(`Renderer.render_eq_unnamed_iff`).

Parts of two texts that stand one after another can be told apart if no
part of the one is shorter than its counterpart and those of equal length
are equal (`SameOrLonger`). That carries the comparison from the tokens to
the pattern and from the pieces to the line.
-/
import Logline.Proofs.Calendar.Translation
import Logline.Proofs.Strictness
import Logline.Proofs.Tool.Canonical

namespace Logline

open Calendar Layout

-- ============================================ texts that are no shorter

/-- Is a text another one, or longer? -/
def SameOrLonger (s t : Text) : Prop :=
  s = t ∨ t.length < s.length

namespace SameOrLonger

variable {s t u v : Text}

theorem length_le (h : SameOrLonger s t) : t.length ≤ s.length := by
  rcases h with rfl | h
  · exact le_refl _
  · exact le_of_lt h

theorem append_eq_iff (h : SameOrLonger s t) (h' : SameOrLonger u v) :
    s ++ u = t ++ v ↔ s = t ∧ u = v := by
  constructor
  · intro heq
    have hlength := congrArg List.length heq
    have hle := h'.length_le
    rcases h with rfl | h
    · exact ⟨rfl, List.append_cancel_left heq⟩
    · rw [List.length_append, List.length_append] at hlength
      omega
  · rintro ⟨rfl, rfl⟩
    rfl

theorem append (h : SameOrLonger s t) (h' : SameOrLonger u v) :
    SameOrLonger (s ++ u) (t ++ v) := by
  have hle := h'.length_le
  rcases h with rfl | h
  · rcases h' with rfl | h'
    · exact .inl rfl
    · right
      rw [List.length_append, List.length_append]
      omega
  · right
    rw [List.length_append, List.length_append]
    omega

variable {α : Type} {f g : α → Text} {xs : List α}

theorem flatMap (h : ∀ x ∈ xs, SameOrLonger (f x) (g x)) :
    SameOrLonger (xs.flatMap f) (xs.flatMap g) := by
  induction xs with
  | nil => exact .inl rfl
  | cons x xs ih =>
      have hxs := ih fun y hy => h y (List.mem_cons_of_mem x hy)
      rw [List.flatMap_cons, List.flatMap_cons]
      exact (h x List.mem_cons_self).append hxs

/-- Texts none of which has shrunk make up the same only if each is the
same. -/
theorem flatMap_eq_iff (h : ∀ x ∈ xs, SameOrLonger (f x) (g x)) :
    xs.flatMap f = xs.flatMap g ↔ ∀ x ∈ xs, f x = g x := by
  induction xs with
  | nil => simp
  | cons x xs ih =>
      have hx := h x List.mem_cons_self
      have htail : ∀ y ∈ xs, SameOrLonger (f y) (g y) :=
        fun y hy => h y (List.mem_cons_of_mem x hy)
      rw [List.flatMap_cons, List.flatMap_cons,
        hx.append_eq_iff (.flatMap htail), ih htail, List.forall_mem_cons]

end SameOrLonger

-- ================================================ two sorts of names

namespace Calendar

/-- The same wall clock in a zone that is made of the offset alone, and
so has a distance for its name. -/
def Timestamp.unnamed (t : Timestamp) : Timestamp :=
  { t with
    zone := t.zone.map fun zone =>
      ⟨zone.offset, Zone.distanceName zone.offset, zone.offset_lt⟩ }

theorem offset_unnamed (t : Timestamp) : t.unnamed.offset = t.offset := by
  unfold Timestamp.offset Timestamp.unnamed
  cases t.zone with
  | none => rfl
  | some zone => rfl

/-- Nothing but the abbreviation looks at the name of a zone. -/
theorem Token.show_unnamed {found : Token} (h : found ≠ .zoneName)
    (t : Timestamp) : found.show t.unnamed = found.show t := by
  cases found with
  | zoneName => exact absurd rfl h
  | offset zulu form =>
      unfold Token.show
      rw [offset_unnamed]
  | _ => rfl

theorem Chunk.show_unnamed {chunk : Chunk} (h : chunk ≠ .token .zoneName)
    (t : Timestamp) : chunk.show t.unnamed = chunk.show t := by
  cases chunk with
  | literal s => rfl
  | token found => exact Token.show_unnamed (fun heq => h (heq ▸ rfl)) t

section Abbreviation

variable {t : Timestamp} {zone : Zone} (hzone : t.zone = some zone)
  (hoffset : zone.offset ≠ 0)
include hzone hoffset

/-- A distance from UTC is shown as an offset without a colon. -/
theorem showZoneName_unnamed :
    showZoneName t.unnamed = showOffset .plain zone.offset := by
  have hname : Zone.distanceName zone.offset
      = 'U' :: 'T' :: 'C' :: offsetText ":" zone.offset := if_neg hoffset
  have hne : offsetText ":" zone.offset ≠ [] := by
    unfold offsetText
    simp only
    split
    · exact List.cons_ne_nil _ _
    · split <;> exact List.cons_ne_nil _ _
  have hunnamed : t.unnamed.zone = some ⟨zone.offset,
      Zone.distanceName zone.offset, zone.offset_lt⟩ := by
    rw [Timestamp.unnamed, hzone]
    rfl
  unfold showZoneName Timestamp.offset
  rw [hunnamed]
  simp only [hname]
  rw [if_neg (List.cons_ne_nil _ _), if_pos]
  simpa [Text.startsWith] using hne

/-- The name that a zone is read with is shown as it stands. -/
theorem showZoneName_of_isPlain (hplain : zone.IsPlain) :
    showZoneName t = showOffset .colon zone.offset := by
  have hname : zone.name = showOffset .colon zone.offset := by
    rw [hplain.named, if_neg hoffset, offsetText_of_minutes _ hplain.minutes,
      showOffset_colon]
  have hown : zone.name.startsWith "UTC" = false := by
    rw [hname, showOffset_colon]
    unfold offsetSign
    split <;> rfl
  rw [showZoneName_eq_name hzone ?_ (.inr hown), hname]
  rw [hname]
  exact List.cons_ne_nil _ _

/-- The abbreviation of a zone that is read is longer by a colon. -/
theorem length_unnamed_lt (hplain : zone.IsPlain) :
    (showZoneName t.unnamed).length < (showZoneName t).length := by
  rw [showZoneName_of_isPlain hzone hoffset hplain,
    showZoneName_unnamed hzone hoffset, showOffset_plain, showOffset_colon]
  simp [signedMinutes]

theorem Chunk.sameOrLonger (hplain : zone.IsPlain) (chunk : Chunk) :
    SameOrLonger (chunk.show t) (chunk.show t.unnamed) := by
  by_cases hchunk : chunk = .token .zoneName
  · subst hchunk
    exact .inr (length_unnamed_lt hzone hoffset hplain)
  · exact .inl (Chunk.show_unnamed hchunk t).symm

theorem formatReference_sameOrLonger (hplain : zone.IsPlain)
    (pattern : Text) :
    SameOrLonger (formatReference t pattern)
      (formatReference t.unnamed pattern) :=
  .flatMap fun chunk _ => chunk.sameOrLonger hzone hoffset hplain

/-- A pattern shows both sorts of zones alike if it does not ask for an
abbreviation. -/
theorem formatReference_eq_unnamed_iff (hplain : zone.IsPlain)
    (pattern : Text) :
    formatReference t pattern = formatReference t.unnamed pattern
      ↔ .token .zoneName ∉ split pattern := by
  unfold formatReference
  rw [SameOrLonger.flatMap_eq_iff
    fun chunk _ => chunk.sameOrLonger hzone hoffset hplain]
  constructor
  · intro hall hmem
    have hlonger := length_unnamed_lt hzone hoffset hplain
    have hsame : showZoneName t = showZoneName t.unnamed := hall _ hmem
    rw [hsame] at hlonger
    exact absurd hlonger (lt_irrefl _)
  · intro hnone chunk hchunk
    refine (Chunk.show_unnamed ?_ t).symm
    rintro rfl
    exact hnone hchunk

end Abbreviation

end Calendar

-- =========================================================== the line

/-- The event with its moment in a zone that is made of the offset. -/
def Event.unnamed (event : Event) : Event :=
  { event with timestamp := event.timestamp.unnamed }

/-- Texts that are all shown stand one after another. -/
theorem eq_flatMap_of_concatM {ε α : Type} {shows : α → Except ε Text}
    {xs : List α} {line : Text} (h : concatM shows xs = .ok line) :
    line = xs.flatMap fun x => (shows x).toOption.getD [] := by
  induction xs generalizing line with
  | nil =>
      cases h
      rfl
  | cons x xs ih =>
      rw [concatM] at h
      obtain ⟨first, hfirst, h⟩ := bind_eq_ok_iff.1 h
      obtain ⟨others, hothers, h⟩ := bind_eq_ok_iff.1 h
      cases h
      rw [List.flatMap_cons, ← ih hothers, hfirst]
      rfl

namespace Renderer

variable {r : Renderer} {event : Event}

/-- What a piece shows, or nothing where it fails. -/
def shown (r : Renderer) (event : Event) (piece : Piece) : Text :=
  (r.showText event piece).toOption.getD []

/-- Only dates look at the moment. -/
theorem shown_unnamed {piece : Piece} (h : piece.kind ≠ .timestamp) :
    r.shown event.unnamed piece = r.shown event piece := by
  obtain ⟨kind, payload⟩ := piece
  cases kind with
  | timestamp => exact absurd rfl h
  | _ => rfl

theorem shown_date (hreference : r.style = .reference) {piece : Piece}
    (h : piece.kind = .timestamp) :
    r.shown event piece
      = formatReference event.timestamp piece.payload := by
  obtain ⟨kind, payload⟩ := piece
  cases h
  show r.style.format event.timestamp payload = _
  rw [hreference]
  rfl

section Dates

variable (hreference : r.style = .reference) {zone : Zone}
  (hzone : event.timestamp.zone = some zone) (hoffset : zone.offset ≠ 0)
  (hplain : zone.IsPlain)
include hreference hzone hoffset hplain

theorem shown_sameOrLonger (piece : Piece) :
    SameOrLonger (r.shown event piece) (r.shown event.unnamed piece) := by
  by_cases hdate : piece.kind = .timestamp
  · rw [shown_date hreference hdate, shown_date hreference hdate]
    exact formatReference_sameOrLonger hzone hoffset hplain _
  · exact .inl (shown_unnamed hdate).symm

theorem shown_eq_unnamed_iff (piece : Piece) :
    r.shown event piece = r.shown event.unnamed piece
      ↔ (piece.kind = .timestamp →
        .token .zoneName ∉ split piece.payload) := by
  by_cases hdate : piece.kind = .timestamp
  · rw [shown_date hreference hdate, shown_date hreference hdate]
    have hiff := formatReference_eq_unnamed_iff hzone hoffset hplain
      piece.payload
    exact hiff.trans ⟨fun h _ => h, fun h => h hdate⟩
  · exact ⟨fun _ h => absurd h hdate, fun _ => (shown_unnamed hdate).symm⟩

/-- Lines for both sorts of zones are the same if no date in them shows an
abbreviation. -/
theorem render_eq_unnamed_iff {name line line' : Text}
    {template : Template} (hname : event.loggerName = .text name)
    (h : r.render event template = .ok line)
    (h' : r.render event.unnamed template = .ok line') :
    line = line' ↔ ∀ piece ∈ template.pieces, piece.kind = .timestamp →
      .token .zoneName ∉ split piece.payload := by
  rw [r.render_eq_concatM event hname] at h
  rw [r.render_eq_concatM event.unnamed hname] at h'
  have hlonger : ∀ piece ∈ template.pieces,
      SameOrLonger (r.shown event piece) (r.shown event.unnamed piece) :=
    fun piece _ => shown_sameOrLonger hreference hzone hoffset hplain piece
  rw [eq_flatMap_of_concatM h, eq_flatMap_of_concatM h']
  refine (SameOrLonger.flatMap_eq_iff hlonger).trans ?_
  exact forall₂_congr fun piece _ =>
    shown_eq_unnamed_iff hreference hzone hoffset hplain piece

end Dates

end Renderer

namespace RenderRequest

/-- A timestamp with an offset gives the line that the same wall clock
gives in a zone made of the offset, exactly when no date of the layout
shows an abbreviation. The line is there unless a level is shown that is
outside the table and must not be. -/
theorem line_eq_unnamed_iff {r : RenderRequest} {now t : Timestamp}
    {env : Environment} {config resolved styled : Config}
    {checked : CheckedEvent} {template : Template} {event : Event}
    {zone : Zone} (hresolved : config.resolve env = .ok resolved)
    (hstyled : r.styled resolved = .ok styled)
    (hreference : DateStyle.ofName? styled.dateStyle = some .reference)
    (hchecked : r.event.check = .ok checked)
    (htemplate : compile r.layout = .ok template)
    (hevent : eventOf now styled.levelNames checked = .ok event)
    (hshown : styled.strictLevels = true →
      event.level.IsOutside styled.levelNames.length →
        ∀ piece ∈ template.pieces, piece.kind ≠ .level)
    (hmoment : momentOfValue r.event.timestamp = .ok (some t))
    (hzone : t.zone = some zone) (hoffset : zone.offset ≠ 0) :
    ∃ renderer line line', Renderer.ofConfig styled = .ok renderer
      ∧ r.line now env config = .ok line
      ∧ renderer.render event.unnamed template = .ok line'
      ∧ (line = line'
        ↔ ∀ piece ∈ template.pieces, piece.kind = .timestamp →
          .token .zoneName ∉ split piece.payload) := by
  have hasked := moment_of_check hchecked
  rw [hmoment] at hasked
  have hfound : event.timestamp = t.withDefaultZone Zone.utc := by
    rw [timestamp_of_eventOf hevent, ← Except.ok.inj hasked]
    rfl
  have heventZone : event.timestamp.zone = some zone := by
    rw [hfound, Timestamp.withDefaultZone, hzone]
    rfl
  have hplain := isPlain_of_momentOfValue hmoment zone hzone
  obtain ⟨name, hname⟩ := exists_name_of_eventOf hevent
  have hrenderer := Renderer.ofConfig_of_ofName? hreference
  obtain ⟨line, hline⟩ : ∃ line,
      Renderer.render ⟨styled, .reference, hreference⟩ event template
        = .ok line :=
    Renderer.exists_line htemplate hname hshown
  obtain ⟨line', hline'⟩ : ∃ line',
      Renderer.render ⟨styled, .reference, hreference⟩ event.unnamed
        template = .ok line' :=
    Renderer.exists_line htemplate hname hshown
  refine ⟨_, line, line', hrenderer, ?_, hline', ?_⟩
  · rw [line_eq_render hresolved hstyled hchecked htemplate hevent hrenderer,
      hline]
    rfl
  · exact Renderer.render_eq_unnamed_iff rfl heventZone hoffset hplain hname
      hline hline'

end RenderRequest

/-- A request for a moment half past five hours east of Greenwich. -/
def easternRequest (pattern : Text) : RenderRequest where
  layout := "%d\x7b" ++ pattern ++ "\x7d"
  event := ⟨.text "root", .int 3, .text [],
    .text "2006-01-02T15:04:05+05:30"⟩
  dateStyle := .text "reference"

/-- The offset as a token of its own is the same in both zones. -/
theorem RenderRequest.line_eq_unnamed_iff_offset :
    ∃ t renderer line,
      momentOfValue (easternRequest "15:04 -0700").event.timestamp
        = .ok (some t)
      ∧ Renderer.ofConfig { dateStyle := "reference" } = .ok renderer
      ∧ (easternRequest "15:04 -0700").line t .empty {} = .ok line
      ∧ renderer.render ⟨.text "root", t.unnamed, .number 3, .text []⟩
          ⟨[⟨.timestamp, "15:04 -0700"⟩], "%d\x7b15:04 -0700\x7d"⟩
        = .ok line := by
  obtain ⟨t, zone, hmoment, hzone, hoffset⟩ : ∃ t zone,
      momentOfValue (easternRequest "15:04 -0700").event.timestamp
        = .ok (some t) ∧ t.zone = some zone ∧ zone.offset ≠ 0 :=
    ⟨⟨.mk 2006 1 2, .mk 15 4 5 0, some ⟨19800000000, "+05:30", by decide⟩⟩,
      _, by decide +kernel, rfl, by decide⟩
  have hresolved : ({} : Config).resolve .empty = .ok {} := rfl
  have hstyled : (easternRequest "15:04 -0700").styled {}
      = .ok { dateStyle := "reference" } := by decide +kernel
  have hchecked : (easternRequest "15:04 -0700").event.check
      = .ok ⟨"root", .ordinal 3, [], some t⟩ := by
    unfold EventRequest.check EventRequest.checkMoment
    rw [hmoment]
    rfl
  have htemplate : compile (easternRequest "15:04 -0700").layout
      = .ok ⟨[⟨.timestamp, "15:04 -0700"⟩], "%d\x7b15:04 -0700\x7d"⟩ := by
    decide +kernel
  have hsame : t.withDefaultZone Zone.utc = t := by
    rw [Timestamp.withDefaultZone, hzone, Option.getD_some, ← hzone]
  have hevent : RenderRequest.eventOf t defaultLevelNames
      ⟨"root", .ordinal 3, [], some t⟩
      = .ok ⟨.text "root", t.withDefaultZone Zone.utc, .number 3,
        .text []⟩ := rfl
  have hlevel : ∀ piece ∈ [Piece.mk .timestamp "15:04 -0700"],
      piece.kind ≠ .level := by decide
  have hsplit : .token .zoneName ∉ split "15:04 -0700" := by
    decide +kernel
  obtain ⟨renderer, line, line', hrenderer, hline, hline', hiff⟩ :=
    RenderRequest.line_eq_unnamed_iff hresolved hstyled (by decide) hchecked
      htemplate hevent (fun _ _ => hlevel) hmoment hzone hoffset
  refine ⟨t, renderer, line, hmoment, hrenderer, hline, ?_⟩
  have hlines : line = line' := by
    refine hiff.2 fun piece hpiece _ => ?_
    cases List.mem_singleton.1 hpiece
    exact hsplit
  rw [hsame] at hline'
  rw [hlines]
  exact hline'

/-- The name of the zone is not: what is read with an offset shows it with
a colon, and what is made of the offset shows it without. -/
theorem RenderRequest.line_ne_unnamed :
    ∃ t, momentOfValue (easternRequest "15:04 MST").event.timestamp
        = .ok (some t)
      ∧ (easternRequest "15:04 MST").line t .empty {}
        = .ok "15:04 +05:30"
      ∧ Renderer.render ⟨{ dateStyle := "reference" }, .reference, by decide⟩
          ⟨.text "root", t.unnamed, .number 3, .text []⟩
          ⟨[⟨.timestamp, "15:04 MST"⟩], "%d\x7b15:04 MST\x7d"⟩
        = .ok "15:04 +0530" := by
  refine ⟨⟨.mk 2006 1 2, .mk 15 4 5 0,
    some ⟨19800000000, "+05:30", by decide⟩⟩, ?_, ?_, ?_⟩
  · decide +kernel
  · decide +kernel
  · decide +kernel

end Logline
