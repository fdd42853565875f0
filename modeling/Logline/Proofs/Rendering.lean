/-
The renderer as a concatenation. A rendering shows all pieces first and
joins what they show afterwards; what it amounts to is that each piece
shows a text or does not, and that the texts stand one after another.

`concatM` is that, in any monad: over `Except` it keeps the error of a
rendering, over `Option` it forgets it. The errors can be kept only for
events whose logger name is a text (`render_eq_concatM`). Another logger
name is found out when the texts are joined, after all other errors, so
for events in general only success is told (`render_eq_ok_iff`).

Either way, a literal shows itself, so merging literals does not change
what lists of pieces show when they are glued (`concatM_glue`).
-/
import Logline.Proofs.Layout.Pieces
import Logline.Renderer

namespace Logline

open Calendar Layout

-- ======================================================= concatenation

section Concat

variable {m : Type → Type} [Monad m] {α : Type}

/-- The texts that the members of a list show, from the left, one after
another. -/
def concatM (shows : α → m Text) : List α → m Text
  | [] => pure []
  | a :: rest => do
    let first ← shows a
    let others ← concatM shows rest
    return first ++ others

variable [LawfulMonad m] (shows : α → m Text)

theorem concatM_append (xs ys : List α) :
    concatM shows (xs ++ ys) = do
      let before ← concatM shows xs
      let after ← concatM shows ys
      return before ++ after := by
  induction xs with
  | nil =>
      show concatM shows ys = pure [] >>= _
      rw [pure_bind]
      exact (bind_pure _).symm
  | cons x xs ih =>
      simp only [List.cons_append, concatM, ih, bind_assoc, pure_bind,
        List.append_assoc]

theorem concatM_singleton (x : α) : concatM shows [x] = shows x := by
  simp only [concatM, pure_bind, List.append_nil, bind_pure]

theorem concatM_snoc (xs : List α) (x : α) :
    concatM shows (xs ++ [x]) = do
      let before ← concatM shows xs
      let last ← shows x
      return before ++ last := by
  rw [concatM_append, concatM_singleton]

omit [LawfulMonad m] in
/-- What the members show is all that counts. -/
theorem concatM_congr {shows shows' : α → m Text} {xs : List α}
    (h : ∀ x ∈ xs, shows x = shows' x) :
    concatM shows xs = concatM shows' xs := by
  induction xs with
  | nil => rfl
  | cons x xs ih =>
      have hx := h x List.mem_cons_self
      have hxs := ih fun y hy => h y (List.mem_cons_of_mem x hy)
      rw [concatM, concatM, hx, hxs]

omit [Monad m] [LawfulMonad m] in
/-- Texts that cannot all be shown fail where one of them does. -/
theorem exists_of_concatM_eq_error {ε : Type} {shows : α → Except ε Text}
    {xs : List α} {why : ε} (h : concatM shows xs = .error why) :
    ∃ x ∈ xs, shows x = .error why := by
  induction xs with
  | nil => cases h
  | cons x xs ih =>
      rw [concatM] at h
      cases hx : shows x with
      | error found =>
          rw [hx] at h
          cases h
          exact ⟨x, List.mem_cons_self, hx⟩
      | ok t =>
          rw [hx] at h
          cases hxs : concatM shows xs with
          | error found =>
              rw [hxs] at h
              cases h
              obtain ⟨y, hy, hfound⟩ := ih hxs
              exact ⟨y, List.mem_cons_of_mem x hy, hfound⟩
          | ok rest =>
              rw [hxs] at h
              cases h

omit [Monad m] [LawfulMonad m] in
/-- Texts cannot all be shown where one of them cannot. -/
theorem exists_concatM_eq_error {ε : Type} {shows : α → Except ε Text}
    {xs : List α} {x : α} {why : ε} (hx : x ∈ xs)
    (hwhy : shows x = .error why) :
    ∃ why, concatM shows xs = .error why := by
  induction xs with
  | nil => cases hx
  | cons y ys ih =>
      rw [concatM]
      cases hy : shows y with
      | error found => exact ⟨found, rfl⟩
      | ok t =>
          rcases List.mem_cons.1 hx with rfl | hx
          · rw [hwhy] at hy
            cases hy
          · obtain ⟨found, hfound⟩ := ih hx
            rw [hfound]
            exact ⟨found, rfl⟩

section Literals

variable {shows : Piece → m Text}
  (hliteral : ∀ t, shows ⟨.text, t⟩ = pure t)
include hliteral

/-- Where a literal shows itself, glued lists show what they show by
themselves, one after the other. -/
theorem concatM_glue (pieces more : List Piece) :
    concatM shows (glue pieces more) = do
      let before ← concatM shows pieces
      let after ← concatM shows more
      return before ++ after := by
  by_cases h : EndsInText pieces ∧ StartsWithText more
  · obtain ⟨⟨before, s, rfl⟩, t, rest, rfl⟩ := h
    rw [glue_texts, concatM_append, concatM_snoc]
    simp only [concatM, hliteral, pure_bind, bind_assoc, List.append_assoc]
  · rw [glue_of_not h, concatM_append]

/-- A text shows itself, be it one literal or none. -/
theorem concatM_literal (t : Text) : concatM shows (literal t) = pure t := by
  by_cases ht : t = []
  · rw [literal, if_pos ht, ht]
    rfl
  · rw [literal, if_neg ht, concatM_singleton, hliteral]

/-- Where a literal shows itself, added text is shown at the end. -/
theorem concatM_addText (pieces : List Piece) (t : Text) :
    concatM shows (addText pieces t) = do
      let line ← concatM shows pieces
      return line ++ t := by
  rw [addText_eq_glue, concatM_glue hliteral, concatM_literal hliteral]
  simp only [pure_bind]

end Literals

end Concat

-- =========================================================== rendering

namespace Renderer

/-- A configuration whose date style is known has its renderer. -/
theorem ofConfig_of_ofName? {config : Config} {style : DateStyle}
    (h : DateStyle.ofName? config.dateStyle = some style) :
    ofConfig config = .ok ⟨config, style, h⟩ := by
  unfold ofConfig
  split
  · next found hfound =>
    rw [hfound] at h
    cases h
    rfl
  · next hnone =>
    rw [hnone] at h
    cases h

/-- There is no renderer exactly where the date style is not known. -/
theorem ofConfig_eq_error_iff {config : Config} {why : RenderError} :
    ofConfig config = .error why
      ↔ DateStyle.ofName? config.dateStyle = none
        ∧ why = .unknownStyle config.dateStyle := by
  cases h : DateStyle.ofName? config.dateStyle with
  | some style =>
      rw [ofConfig_of_ofName? h]
      exact ⟨(nomatch ·), fun hnone => nomatch hnone.1⟩
  | none =>
      have herror : ofConfig config = .error (.unknownStyle config.dateStyle) := by
        unfold ofConfig
        split
        · next found hfound =>
          rw [hfound] at h
          cases h
        · rfl
      rw [herror, Except.error.injEq]
      exact ⟨fun heq => ⟨rfl, heq.symm⟩, fun hall => hall.2.symm⟩

theorem config_of_ofConfig {config : Config} {r : Renderer}
    (h : ofConfig config = .ok r) : r.config = config := by
  unfold ofConfig at h
  split at h
  · cases h
    rfl
  · cases h

/-- A template of one date shows the moment by its pattern. -/
theorem render_date (r : Renderer) (event : Event) (pattern layout : Text) :
    r.render event ⟨[⟨.timestamp, pattern⟩], layout⟩
      = .ok (r.style.format event.timestamp pattern) := by
  show Except.ok (r.style.format event.timestamp pattern ++ []) = _
  rw [List.append_nil]

/-- A template of one level shows its name. -/
theorem render_level (r : Renderer) (event : Event) (layout : Text) :
    r.render event ⟨[⟨.level, []⟩], layout⟩ = r.levelName event.level := by
  show ((r.levelName event.level).map Value.text >>= _) >>= _ = _
  cases r.levelName event.level with
  | error why => rfl
  | ok name =>
      show Except.ok (name ++ []) = _
      rw [List.append_nil]

variable (r : Renderer) (event : Event)

/-- What a piece shows of an event whose logger name is a text. -/
def showText (piece : Piece) : Except RenderError Text :=
  match piece.kind with
  | .text => .ok piece.payload
  | .loggerName => .ok event.loggerName.display
  | .timestamp => .ok (r.style.format event.timestamp piece.payload)
  | .level => r.levelName event.level
  | .message => .ok event.payload.display
  | .other name => .error (.unsupportedKind name)

/-- With a text for a logger name, all that a piece can show is text. -/
theorem showPiece_eq_map {name : Text} (hname : event.loggerName = .text name)
    (piece : Piece) :
    r.showPiece event piece = (r.showText event piece).map .text := by
  obtain ⟨kind, payload⟩ := piece
  cases kind with
  | loggerName =>
      show Except.ok event.loggerName
        = .ok (Value.text event.loggerName.display)
      rw [hname]
      rfl
  | _ => rfl

/-- Showing and then joining texts is concatenating them: no error can
arise in the joining. -/
private theorem join_of_texts {name : Text}
    (hname : event.loggerName = .text name) (pieces : List Piece) :
    ∀ index, (pieces.mapM (r.showPiece event) >>= joinShown index)
      = concatM (r.showText event) pieces := by
  induction pieces with
  | nil => intro index; rfl
  | cons piece pieces ih =>
      intro index
      have hrest := ih (index + 1)
      rw [List.mapM_cons, concatM, r.showPiece_eq_map event hname, ← hrest]
      cases r.showText event piece with
      | error why => rfl
      | ok t => cases pieces.mapM (r.showPiece event) <;> rfl

/-- The line of an event whose logger name is a text, or why there is
none. -/
theorem render_eq_concatM {name : Text}
    (hname : event.loggerName = .text name) (template : Template) :
    r.render event template
      = concatM (r.showText event) template.pieces :=
  r.join_of_texts event hname template.pieces 0

/-- The text that a piece shows, if it shows one. -/
def shownText? (piece : Piece) : Option Text :=
  match r.showPiece event piece with
  | .ok (.text t) => some t
  | _ => none

/-- A line comes about exactly when every piece shows a text. -/
private theorem toOption_join (pieces : List Piece) :
    ∀ index,
      (pieces.mapM (r.showPiece event) >>= joinShown index).toOption
        = concatM (r.shownText? event) pieces := by
  induction pieces with
  | nil => intro index; rfl
  | cons piece pieces ih =>
      intro index
      have hrest := ih (index + 1)
      rw [List.mapM_cons, concatM, ← hrest, shownText?]
      cases r.showPiece event piece with
      | error why => rfl
      | ok value =>
          cases hshown : pieces.mapM (r.showPiece event) with
          | error why => cases value <;> rfl
          | ok values =>
              cases value with
              | text t =>
                  show (joinShown index (.text t :: values)).toOption
                    = (joinShown (index + 1) values).toOption >>= _
                  rw [joinShown]
                  cases joinShown (index + 1) values <;> rfl
              | _ => rfl

/-- When an event has a line, and which. -/
theorem render_eq_ok_iff (template : Template) (line : Text) :
    r.render event template = .ok line
      ↔ concatM (r.shownText? event) template.pieces = some line := by
  have h := r.toOption_join event template.pieces 0
  change (r.render event template).toOption = _ at h
  rw [← h]
  cases r.render event template with
  | ok t =>
      show Except.ok t = .ok line ↔ some t = some line
      rw [Except.ok.injEq, Option.some.injEq]
  | error why => exact ⟨(nomatch ·), (nomatch ·)⟩

end Renderer

end Logline
