/-
The year behind other text. Splitting a pattern in two does not split its
tokens in two, so a pattern that is put together may lose tokens that its
parts have. Whether it does is a matter of the seam: a token is lost only
to a longer one that goes over it, or to one that is started before it.

# Going over a two

With a two behind the seam little can happen. Only `02` and `_2` have a
two behind their first character (`IsToken.front_of_two`), and a fraction
that ends at the seam ends in a digit. So if the first part ends neither
in a decimal digit nor in an underscore, the texts that end at the seam
start with the same tokens as before (`startsToken_append_iff`). They are
read alike, so the seam holds, and the year in front of the second part is
read next (`split_append_year`).

# The underscore

Behind an underscore the year is never read. The underscore and the two
are a token, no literal goes over the start of it, and no token ends in an
underscore. So no part ends in front of the two
(`not_hasTokenAt_of_underscore`).
-/
import Logline.Proofs.Calendar.Seam

namespace Logline.Calendar

open Text

-- ================================================== tokens at a seam

/-- Whether a word is a token is not changed by what comes later, if
something stands between that is no digit. -/
theorem isToken_append_iff {word after : Text} (more : Text)
    (hlast : ∀ c ∈ (word ++ after).getLast?, isDecimalDigit c = false) :
    IsToken (after ++ more) word ↔ IsToken after word := by
  refine isToken_congr fun digit places hdigit hplaces hword => ?_
  cases after with
  | cons c after => exact Iff.rfl
  | nil =>
      -- a fraction ends in a digit, so the word is none
      obtain ⟨more, rfl⟩ : ∃ more, places = more + 1 :=
        ⟨places - 1, by omega⟩
      have hend : word.getLast? = some digit := by
        rw [hword, List.replicate_succ', ← List.cons_append,
          List.getLast?_concat]
      rw [List.append_nil] at hlast
      have hfalse := hlast digit hend
      rw [isDecimalDigit_of_eq hdigit] at hfalse
      cases hfalse

/-- Only two words have a two behind their first character, and in front
of it a zero or an underscore. -/
theorem IsToken.front_of_two {after front behind : Text}
    (h : IsToken after (front ++ '2' :: behind)) (hfront : front ≠ []) :
    front = ['0'] ∨ front = ['_'] := by
  obtain ⟨c, rest, rfl⟩ := List.exists_cons_of_ne_nil hfront
  generalize hword : c :: rest ++ '2' :: behind = word at h
  cases h with
  | listed hlisted =>
      have hall : ∀ word ∈ vocabulary, '2' ∈ word.tail →
          word = "02" ∨ word = "_2" := by decide
      have htwo : '2' ∈ word.tail := by
        rw [← hword]
        exact List.mem_append_right rest List.mem_cons_self
      have hlength : word.length = 2 := by
        rcases hall word hlisted htwo with rfl | rfl <;> rfl
      have hnil : rest = [] := by
        rw [← hword] at hlength
        simp only [List.length_append, List.length_cons] at hlength
        exact List.eq_nil_of_length_eq_zero (by omega)
      subst hnil
      rcases hall word hlisted htwo with rfl | rfl
      · exact .inl (congrArg (·.take 1) hword)
      · exact .inr (congrArg (·.take 1) hword)
  | @fraction digit places hdigit =>
      have htwo : '2' ∈ '.' :: List.replicate places digit := by
        rw [← hword]
        exact List.mem_append_right _ List.mem_cons_self
      rcases List.mem_cons.1 htwo with htwo | htwo
      · cases htwo
      · have htwo := List.eq_of_mem_replicate htwo
        rw [← htwo] at hdigit
        rcases hdigit with hdigit | hdigit <;> cases hdigit

/-- Is a text's end one that no token goes over, if a two follows? -/
def EndsClear (u : Text) : Prop :=
  ∀ c ∈ u.getLast?, isDecimalDigit c = false ∧ c ≠ '_'

theorem startsToken_append_iff {s : Text} (hne : s ≠ []) (hs : EndsClear s)
    (behind word : Text) :
    StartsToken (s ++ '2' :: behind) word ↔ StartsToken s word := by
  refine startsToken_append_iff_of_seam ?_ ?_ word
  · -- a word that goes over the seam needs what the text does not end in
    intro beyond after hbeyond heq hword
    obtain ⟨c, rest, rfl⟩ := List.exists_cons_of_ne_nil hbeyond
    obtain ⟨rfl, -⟩ := List.cons.inj heq
    rcases hword.front_of_two hne with rfl | rfl
    · cases (hs '0' rfl).1
    · exact absurd rfl (hs '_' rfl).2
  · rintro word after rfl
    exact isToken_append_iff _ fun c hc => (hs c hc).1

theorem read?_append {s : Text} (hne : s ≠ []) (hs : EndsClear s)
    (behind : Text) : Token.read? (s ++ '2' :: behind) = Token.read? s :=
  read?_congr (startsToken_append_iff hne hs behind)

-- ================================================== splitting at a year

theorem split_year (v : Text) :
    split ("2006" ++ v) = .token .year :: split v := by
  have hread : Token.read? ("2006" ++ v) = some (.year, 4) := rfl
  rw [split_of_read? hread]
  rfl

theorem EndsClear.of_suffix {s u : Text} (hu : EndsClear u) (hne : s ≠ [])
    (h : s <:+ u) : EndsClear s := by
  obtain ⟨before, rfl⟩ := h
  intro c hc
  refine hu c ?_
  rw [List.getLast?_append_of_ne_nil before hne]
  exact hc

theorem split_append_year {u : Text} (hu : EndsClear u) (v : Text) :
    split (u ++ ("2006" ++ v)) = split u ++ .token .year :: split v := by
  have hglued : split (u ++ ("2006" ++ v))
      = Chunk.glue (split u) (split ("2006" ++ v)) :=
    split_append fun s hne hs =>
      read?_append hne (hu.of_suffix hne hs) ("006" ++ v)
  have hapart := (List.isChain_map Chunk.part).1 (isSplit_split u).apart
  rw [hglued, split_year, Chunk.glue_token _ _ _ hapart]

/-- What is written around a year is written as it is without the year. -/
theorem formatReference_append_year {u : Text} (hu : EndsClear u) (v : Text)
    (t : Timestamp) :
    formatReference t (u ++ ("2006" ++ v))
      = formatReference t u
        ++ (zeroPadded 4 t.date.year ++ formatReference t v) := by
  unfold formatReference
  rw [split_append_year hu, List.flatMap_append, List.flatMap_cons]
  rfl

-- ============================================ behind an underscore

/-- Has the split of a pattern a token at a place, written so? -/
def HasTokenAt (pattern : Text) (place : Nat) (word : Text) : Prop :=
  ∃ before after,
    (split pattern).map Chunk.part = before ++ ⟨true, word⟩ :: after
      ∧ (before.flatMap Part.text).length = place

/-- No token ends in an underscore. -/
theorem IsToken.not_underscore {after front : Text} :
    ¬ IsToken after (front ++ ['_']) := by
  intro h
  generalize hword : front ++ ['_'] = word at h
  have hend : word.getLast? = some '_' := by
    rw [← hword, List.getLast?_concat]
  cases h with
  | listed hlisted =>
      have hall : ∀ word ∈ vocabulary, word.getLast? ≠ some '_' := by decide
      exact hall word hlisted hend
  | @fraction digit places hdigit =>
      have hmem : '_' ∈ '.' :: List.replicate places digit :=
        List.mem_of_getLast? hend
      rcases List.mem_cons.1 hmem with hmem | hmem
      · cases hmem
      · have hmem := List.eq_of_mem_replicate hmem
        rw [← hmem] at hdigit
        rcases hdigit with hdigit | hdigit <;> cases hdigit

/-- An underscore and a two are a token where the underscore stands, so no
part ends between them. -/
theorem not_hasTokenAt_of_underscore (w rest word : Text) :
    ¬ HasTokenAt (w ++ ['_'] ++ '2' :: rest) (w ++ ['_']).length word := by
  rintro ⟨before, after, hparts, hplace⟩
  have hsplit := isSplit_split (w ++ ['_'] ++ '2' :: rest)
  rw [hparts] at hsplit
  have hbefore : before.flatMap Part.text = w ++ ['_'] := by
    have hjoined := hsplit.joined
    rw [List.flatMap_append] at hjoined
    exact (List.append_inj hjoined hplace).1
  rcases List.eq_nil_or_concat' before with rfl | ⟨front, last, rfl⟩
  · exact absurd hbefore.symm (List.append_ne_nil_of_right_ne_nil _ nofun)
  -- the part in front of the token ends in the underscore
  have hne := hsplit.filled last (by simp)
  obtain ⟨text, c, htext⟩ : ∃ text c, last.text = text ++ [c] :=
    ⟨_, _, (List.dropLast_concat_getLast hne).symm⟩
  rw [List.flatMap_append, List.flatMap_singleton, htext,
    ← List.append_assoc] at hbefore
  obtain ⟨rfl, hc⟩ := List.append_inj' hbefore rfl
  cases hc
  obtain ⟨isToken, ending⟩ := last
  obtain rfl : ending = text ++ ['_'] := htext
  have hshape := List.append_assoc front [⟨isToken, text ++ ['_']⟩]
    (⟨true, word⟩ :: after)
  cases isToken with
  | true =>
      obtain ⟨_, -, htoken⟩ := (hsplit.tokens front _ _ hshape).starts
      exact htoken.not_underscore
  | false =>
      have hshort : text.length < (text ++ ['_']).length := by
        rw [List.length_append]
        exact Nat.lt_add_of_pos_right Nat.one_pos
      have hnone := hsplit.literals front _ _ hshape text.length hshort "_2"
      have hdrop : (front.flatMap Part.text ++ text ++ ['_']
            ++ '2' :: rest).drop ((front.flatMap Part.text).length
              + text.length)
          = '_' :: '2' :: rest := by
        rw [← List.length_append, List.append_assoc, List.drop_left]
        rfl
      rw [hdrop] at hnone
      exact hnone ⟨rest, rfl, .listed (by decide)⟩

/-- A year that is written behind anything but a decimal digit is read as
one exactly when no underscore stands in front of it. Then its token stands
where it is written, and what is shown of a moment goes on with the year in
four digits behind what is shown for the pattern in front of it. -/
theorem hasTokenAt_year_iff {u : Text}
    (hu : ∀ c ∈ u.getLast?, isDecimalDigit c = false) (v : Text) :
    (HasTokenAt (u ++ "2006" ++ v) u.length "2006"
        ∧ ∀ t, formatReference t u ++ zeroPadded 4 t.date.year
          <+: formatReference t (u ++ "2006" ++ v))
      ↔ u.getLast? ≠ some '_' := by
  constructor
  · rintro ⟨hyear, -⟩ hlast
    obtain ⟨w, rfl⟩ := List.getLast?_eq_some_iff.1 hlast
    rw [List.append_assoc] at hyear
    exact not_hasTokenAt_of_underscore w ("006" ++ v) "2006" hyear
  · intro hlast
    have hclear : EndsClear u := by
      intro c hc
      refine ⟨hu c hc, ?_⟩
      rintro rfl
      exact hlast hc
    rw [List.append_assoc]
    constructor
    · refine ⟨(split u).map Chunk.part, (split v).map Chunk.part, ?_, ?_⟩
      · rw [split_append_year hclear, List.map_append]
        rfl
      · rw [(isSplit_split u).joined]
    · intro t
      rw [formatReference_append_year hclear, ← List.append_assoc]
      exact List.prefix_append _ _

/-- Behind a blank the year is read, whatever the date goes on with. -/
theorem hasTokenAt_year_iff_blank :
    (∀ c ∈ List.getLast? ['a', 't', ' '], isDecimalDigit c = false)
      ∧ HasTokenAt "at 2006_2" 3 "2006"
      ∧ ∀ t, formatReference t "at " ++ zeroPadded 4 t.date.year
        <+: formatReference t "at 2006_2" := by
  have hdigit : ∀ c ∈ List.getLast? ['a', 't', ' '],
      isDecimalDigit c = false := by
    intro c hc
    cases hc
    rfl
  exact ⟨hdigit, (hasTokenAt_year_iff hdigit "_2").2 (by decide)⟩

/-- Behind an underscore it is not: the underscore and the first digit are
taken for a day, and the last two digits for a year of two. -/
theorem not_hasTokenAt_year :
    (∀ c ∈ List.getLast? ['_'], isDecimalDigit c = false)
      ∧ (split "_2006").map Chunk.part
        = [⟨true, "_2"⟩, ⟨false, "0"⟩, ⟨true, "06"⟩]
      ∧ ¬ HasTokenAt "_2006" 1 "2006"
      ∧ ∃ t, ¬ formatReference t "_" ++ zeroPadded 4 t.date.year
        <+: formatReference t "_2006" := by
  have hsplit : (split "_2006").map Chunk.part
      = [⟨true, "_2"⟩, ⟨false, "0"⟩, ⟨true, "06"⟩] := by decide +kernel
  refine ⟨?_, hsplit, not_hasTokenAt_of_underscore [] "006" "2006",
    ⟨.mk 2025 12 30, .midnight, none⟩, ?_⟩
  · intro c hc
    cases hc
    rfl
  · decide +kernel

end Logline.Calendar
