/-
Patterns put together. What a pattern shows is not what its two halves
show: a token can go over the seam, and a fraction that ends there can be
undone by a digit behind it. Neither can happen where reading in front of
the seam is the same with and without what comes behind. Then the split of
the whole is the two splits glued together, with two literals that meet
made one (`split_append`).

A separator is a character that makes such a seam wherever it stands: one
that no token has in it, and no decimal digit. Nothing goes over it, and
nothing in front of it is undone by it (`startsToken_append_separator`). So
patterns on its two sides are split and shown by themselves
(`split_append_separator`).
-/
import Logline.Proofs.Calendar.Splitting

namespace Logline.Calendar

open Text

-- ============================================================== gluing

namespace Chunk

/-- Puts a chunk in front. Two literals that meet become one. -/
def cons : Chunk → List Chunk → List Chunk
  | literal s, literal t :: rest => literal (s ++ t) :: rest
  | chunk, chunks => chunk :: chunks

/-- Puts chunks in front of others. Two literals that meet become one. -/
def glue (chunks more : List Chunk) : List Chunk :=
  chunks.foldr cons more

theorem glue_cons (chunk : Chunk) (chunks more : List Chunk) :
    glue (chunk :: chunks) more = chunk.cons (glue chunks more) := rfl

theorem cons_character (c : Char) (chunks : List Chunk) :
    cons (literal [c]) chunks = consLiteral c chunks := by
  rcases chunks with _ | ⟨_ | _, _⟩ <;> rfl

/-- A literal character in front of glued chunks is in front of the first
of them. -/
theorem glue_consLiteral (c : Char) (chunks more : List Chunk) :
    glue (consLiteral c chunks) more = consLiteral c (glue chunks more) := by
  cases chunks with
  | nil => exact cons_character c more
  | cons chunk chunks =>
      cases chunk with
      | token found => exact cons_character c (token found :: glue chunks more)
      | literal t =>
          show cons (literal (c :: t)) (glue chunks more)
            = consLiteral c (cons (literal t) (glue chunks more))
          rcases glue chunks more with _ | ⟨_ | _, _⟩ <;> rfl

/-- In front of a token there is nothing to glue. -/
theorem glue_token (chunks : List Chunk) (found : Token)
    (more : List Chunk) (h : chunks.IsChain fun a b =>
      a.part.isToken = true ∨ b.part.isToken = true) :
    glue chunks (token found :: more) = chunks ++ token found :: more := by
  induction chunks with
  | nil => rfl
  | cons chunk chunks ih =>
      obtain ⟨hnext, hrest⟩ := List.isChain_cons.1 h
      rw [glue_cons, ih hrest]
      cases chunk with
      | token first => rfl
      | literal s =>
          cases chunks with
          | nil => rfl
          | cons next chunks =>
              cases next with
              | token other => rfl
              | literal t => rcases hnext _ rfl with h | h <;> cases h

/-- Glued chunks show what they show by themselves. -/
theorem flatMap_show_glue (t : Timestamp) (chunks more : List Chunk) :
    (glue chunks more).flatMap (Chunk.show t)
      = chunks.flatMap (Chunk.show t) ++ more.flatMap (Chunk.show t) := by
  have hcons : ∀ (chunk : Chunk) (others : List Chunk),
      (chunk.cons others).flatMap (Chunk.show t)
        = chunk.show t ++ others.flatMap (Chunk.show t) := by
    intro chunk others
    rcases chunk with s | found <;> rcases others with _ | ⟨s' | _, others⟩
    case literal.cons.literal =>
      show s ++ s' ++ _ = s ++ (s' ++ _)
      exact List.append_assoc _ _ _
    all_goals rfl
  induction chunks with
  | nil => rfl
  | cons chunk chunks ih =>
      rw [glue_cons, hcons, ih, List.flatMap_cons, List.append_assoc]

end Chunk

-- ===================================================== a seam that holds

/-- What follows a word matters to fractions only, and to them only whether
it starts with a decimal digit. -/
theorem isToken_congr {after after' word : Text}
    (h : ∀ digit places, (digit = '0' ∨ digit = '9') → 0 < places →
      word = '.' :: List.replicate places digit →
      ((∀ c ∈ after.head?, isDecimalDigit c = false)
        ↔ ∀ c ∈ after'.head?, isDecimalDigit c = false)) :
    IsToken after word ↔ IsToken after' word := by
  constructor
  · rintro (hlisted | ⟨hdigit, hplaces, hafter⟩)
    · exact .listed hlisted
    · exact .fraction hdigit hplaces
        ((h _ _ hdigit hplaces rfl).1 hafter)
  · rintro (hlisted | ⟨hdigit, hplaces, hafter⟩)
    · exact .listed hlisted
    · exact .fraction hdigit hplaces
        ((h _ _ hdigit hplaces rfl).2 hafter)

/-- A text starts with the same tokens whatever comes behind it, if no word
goes over its end and no word in it is undone. -/
theorem startsToken_append_iff_of_seam {s behind : Text}
    (hacross : ∀ beyond after, beyond ≠ [] → behind = beyond ++ after →
      ¬ IsToken after (s ++ beyond))
    (hundone : ∀ word after, s = word ++ after →
      (IsToken (after ++ behind) word ↔ IsToken after word)) (word : Text) :
    StartsToken (s ++ behind) word ↔ StartsToken s word := by
  constructor
  · rintro ⟨after, heq, hword⟩
    rcases List.append_eq_append_iff.1 heq with
      ⟨beyond, rfl, hbehind⟩ | ⟨between, rfl, rfl⟩
    · -- the word reaches the end, so it ends there
      by_cases hnone : beyond = []
      · subst hnone
        rw [List.append_nil] at hword ⊢
        rw [List.nil_append] at hbehind
        rw [← hbehind] at hword
        exact ⟨[], (List.append_nil s).symm,
          (hundone s [] (List.append_nil s).symm).1 hword⟩
      · exact absurd hword (hacross beyond after hnone hbehind)
    · exact ⟨between, rfl, (hundone word between rfl).1 hword⟩
  · rintro ⟨after, rfl, hword⟩
    exact ⟨after ++ behind, List.append_assoc _ _ _,
      (hundone word after rfl).2 hword⟩

/-- Where every text that ends at the seam is read alike with and without
what comes behind, the whole is split into the two splits, glued. -/
theorem split_append {u w : Text}
    (h : ∀ s, s ≠ [] → s <:+ u → Token.read? (s ++ w) = Token.read? s) :
    split (u ++ w) = Chunk.glue (split u) (split w) := by
  induction u using split.induct with
  | case1 =>
      rw [split]
      rfl
  | case2 c rest found n hread ih =>
      obtain ⟨hlongest, hlength⟩ := longestToken_of_read? hread
      obtain ⟨after, heq, -⟩ := hlongest.starts
      have hn : n ≤ (c :: rest).length := by
        have hlength : n = found.word.length := hlength
        rw [heq, hlength, List.length_append]
        exact Nat.le_add_right _ _
      have hrest := ih fun s hne hs =>
        h s hne (hs.trans (List.drop_suffix n _))
      have hwhole := (h _ (List.cons_ne_nil c rest)
        (List.suffix_refl _)).trans hread
      rw [split_of_read? hwhole, split_of_read? hread,
        List.drop_append_of_le_length hn, hrest]
      rfl
  | case3 c rest hread ih =>
      have hrest := ih fun s hne hs =>
        h s hne (hs.trans (List.suffix_cons c rest))
      have hwhole : Token.read? (c :: (rest ++ w)) = none :=
        (h _ (List.cons_ne_nil c rest) (List.suffix_refl _)).trans hread
      rw [List.cons_append, split_of_not_read? hwhole,
        split_of_not_read? hread, hrest, Chunk.glue_consLiteral]

-- =========================================================== separators

/-- Is a character in no token, and is it no decimal digit either? -/
structure IsSeparator (c : Char) : Prop where
  unused : ∀ after word, IsToken after word → c ∉ word
  not_digit : isDecimalDigit c = false

/-- Fractions consist of points and digits, so a character need only be
looked up in the vocabulary. -/
theorem IsSeparator.of_vocabulary {c : Char}
    (hwords : ∀ word ∈ vocabulary, c ∉ word) (hpoint : c ≠ '.')
    (hdigit : isDecimalDigit c = false) : IsSeparator c where
  not_digit := hdigit
  unused := by
    intro after word hword
    cases hword with
    | listed hlisted => exact hwords word hlisted
    | fraction hzero =>
        intro hc
        rcases List.mem_cons.1 hc with hc | hc
        · exact hpoint hc
        · rw [List.eq_of_mem_replicate hc, isDecimalDigit_of_eq hzero]
            at hdigit
          cases hdigit

namespace IsSeparator

variable {c : Char} (hc : IsSeparator c)
include hc

/-- A separator behind a text neither makes tokens at its end nor undoes
them. -/
theorem isToken_append_iff (after behind word : Text) :
    IsToken (after ++ c :: behind) word ↔ IsToken after word := by
  refine isToken_congr fun _ _ _ _ _ => ?_
  cases after with
  | nil => simp [hc.not_digit]
  | cons d after => exact Iff.rfl

theorem startsToken_append_iff (s behind word : Text) :
    StartsToken (s ++ c :: behind) word ↔ StartsToken s word := by
  refine startsToken_append_iff_of_seam ?_
    (fun word after _ => hc.isToken_append_iff after behind word) word
  intro beyond after hne heq hword
  obtain ⟨d, rest, rfl⟩ := List.exists_cons_of_ne_nil hne
  obtain ⟨rfl, -⟩ := List.cons.inj heq
  exact hc.unused after _ hword (List.mem_append_right s List.mem_cons_self)

theorem read?_append (s behind : Text) :
    Token.read? (s ++ c :: behind) = Token.read? s :=
  read?_congr (hc.startsToken_append_iff s behind)

/-- A separator is a literal where it stands. -/
theorem split_cons (behind : Text) :
    split (c :: behind) = Chunk.cons (.literal [c]) (split behind) := by
  have hread : Token.read? (c :: behind) = none :=
    hc.read?_append [] behind
  rw [split_of_not_read? hread, Chunk.cons_character]

end IsSeparator

/-- Patterns with a separator between them are split by themselves, the
separator joined to the literals that stand next to it, and what they show
together is what they show by themselves with the separator between. -/
theorem split_append_separator {c : Char} (hc : IsSeparator c)
    (p q : Text) :
    split (p ++ c :: q)
        = Chunk.glue (split p) (Chunk.cons (.literal [c]) (split q))
      ∧ ∀ t, formatReference t (p ++ c :: q)
        = formatReference t p ++ c :: formatReference t q := by
  have hsplit : split (p ++ c :: q)
      = Chunk.glue (split p) (Chunk.cons (.literal [c]) (split q)) := by
    rw [split_append fun s _ _ => hc.read?_append s q, hc.split_cons]
  refine ⟨hsplit, fun t => ?_⟩
  have hbehind := Chunk.flatMap_show_glue t [.literal [c]] (split q)
  unfold formatReference
  rw [hsplit, Chunk.flatMap_show_glue]
  exact congrArg _ hbehind

/-- A slash keeps a fraction apart from the zeros behind it. Without it
they would be a fraction of four places. -/
theorem split_append_separator_slash :
    IsSeparator '/'
      ∧ split "5.00/00Jan"
        = [.token .second, .token (.fraction false 2), .literal "/00",
          .token .monthShort]
      ∧ ∀ t, formatReference t "5.00/00Jan"
        = formatReference t "5.00" ++ '/' :: formatReference t "00Jan" := by
  have hslash : IsSeparator '/' :=
    .of_vocabulary (by decide) (by decide) (by decide)
  obtain ⟨hsplit, hshown⟩ := split_append_separator hslash "5.00" "00Jan"
  have hbefore : split "5.00"
      = [.token .second, .token (.fraction false 2)] := by decide +kernel
  have hbehind : split "00Jan" = [.literal "00", .token .monthShort] := by
    decide +kernel
  rw [hbefore, hbehind] at hsplit
  exact ⟨hslash, hsplit, hshown⟩

end Logline.Calendar
