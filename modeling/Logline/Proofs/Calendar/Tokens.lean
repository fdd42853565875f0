/-
Tokens as they are written. A pattern names a part of the moment by a
word. It is one of a fixed vocabulary, wherever it stands, or else a
point and a run of zeros or of nines with no decimal digit behind it.
That is all there is to know of tokens (`IsToken`), and it does not speak
of tables, of their order or of runs that are gone through.

# The longest word counts

What is read off a text is the longest token that it starts with
(`longestToken_of_read?`), and where nothing is read the text starts with
no token. Three facts make it so. No word of the vocabulary starts with a
point, so words and fractions never compete. No word of the table is the
start of one that stands below it (`pairwise_words`), so the first word
that fits is the longest. And a run that is cut short has its own digit
behind it, so only the whole run is a fraction.

# From the word back to the token

Once a pattern is split, the word is all that is left of a token, and
what it shows is found from the word alone: from its first character
where that is telling, and from a table of the others (`ofWord?`). The
vocabulary, the telling characters and the table are three lists of the
same words. Every word that is read is found again (`ofWord?_of_read?`).
-/
import Logline.Calendar.Reference
import Mathlib.Data.List.TakeWhile

namespace Logline.Calendar

open Text

-- ================================================== words that are tokens

/-- The words that are tokens wherever they stand. -/
def vocabulary : List Text := [
  "January", "Jan", "Monday", "Mon", "MST", "2006", "Z07:00", "Z0700",
  "Z07", "-07:00", "-0700", "-07", "_2", "01", "02", "03", "04", "05",
  "06", "15", "PM", "pm", "1", "2", "3", "4", "5"]

/-- Is a word a token where the given text follows it? -/
inductive IsToken (after : Text) : Text → Prop
  | listed {word : Text} (h : word ∈ vocabulary) : IsToken after word
  | fraction {digit : Char} {places : Nat} (hdigit : digit = '0' ∨ digit = '9')
      (hplaces : 0 < places)
      (hafter : ∀ c ∈ after.head?, isDecimalDigit c = false) :
      IsToken after ('.' :: List.replicate places digit)

/-- Does a text start with a word that is a token there? -/
def StartsToken (t word : Text) : Prop :=
  ∃ after, t = word ++ after ∧ IsToken after word

/-- Is the word the longest token that a text starts with? -/
structure LongestToken (t word : Text) : Prop where
  starts : StartsToken t word
  longest : ∀ other, StartsToken t other → other.length ≤ word.length

-- ============================================================ the table

theorem map_fst_words : Token.words.map Prod.fst = vocabulary := by
  decide

/-- A point starts no word of the vocabulary. -/
theorem head_of_mem_vocabulary {word : Text} (h : word ∈ vocabulary) :
    ∃ c rest, word = c :: rest ∧ c ≠ '.' := by
  have hall : ∀ word ∈ vocabulary, word ≠ [] ∧ word.head? ≠ some '.' := by
    decide
  obtain ⟨hne, hhead⟩ := hall word h
  obtain ⟨c, rest, rfl⟩ := List.exists_cons_of_ne_nil hne
  exact ⟨c, rest, rfl, fun hc => hhead (congrArg some hc)⟩

/-- No word of the table is the start of one that stands below it. -/
theorem pairwise_words :
    Token.words.Pairwise fun a b => startsWith b.1 a.1 = false := by
  decide

theorem word_of_mem_words {entry : Text × Token} (h : entry ∈ Token.words) :
    entry.2.word = entry.1 := by
  revert entry
  decide

-- ========================================================= fractions

theorem isDecimalDigit_of_eq {digit : Char} (h : digit = '0' ∨ digit = '9') :
    isDecimalDigit digit = true := by
  rcases h with rfl | rfl <;> decide

/-- A run ends where something else than its digit stands. -/
theorem run_of_digit {digit : Char} (hdigit : digit = '0' ∨ digit = '9')
    (places : Nat) {after : Text}
    (hafter : ∀ c ∈ after.head?, isDecimalDigit c = false) :
    (List.replicate places digit ++ after).takeWhile (· = digit)
        = List.replicate places digit
      ∧ (List.replicate places digit ++ after).dropWhile (· = digit)
        = after := by
  have hrun : ∀ c ∈ List.replicate places digit, decide (c = digit) = true :=
    fun c hc => decide_eq_true (List.eq_of_mem_replicate hc)
  rw [List.takeWhile_append_of_pos hrun, List.dropWhile_append_of_pos hrun]
  cases after with
  | nil => exact ⟨List.append_nil _, rfl⟩
  | cons c after =>
      have hc : c ≠ digit := by
        rintro rfl
        have hfalse := hafter c rfl
        rw [isDecimalDigit_of_eq hdigit] at hfalse
        cases hfalse
      rw [List.takeWhile_cons_of_neg (by simp [hc]),
        List.dropWhile_cons_of_neg (by simp [hc]), List.append_nil]
      exact ⟨rfl, rfl⟩

/-- A run of zeros or nines behind a point is read as one token, if no
other digit follows it. -/
theorem fraction?_run {digit : Char} (hdigit : digit = '0' ∨ digit = '9')
    {places : Nat} (hplaces : 0 < places) {after : Text}
    (hafter : ∀ c ∈ after.head?, isDecimalDigit c = false) :
    Token.fraction? ('.' :: List.replicate places digit ++ after)
      = some (.fraction (digit = '9') places, 1 + places) := by
  obtain ⟨more, rfl⟩ : ∃ more, places = more + 1 := ⟨places - 1, by omega⟩
  obtain ⟨htake, hdrop⟩ := run_of_digit hdigit more hafter
  have hnone : (after.head?.any isDecimalDigit) = false := by
    cases after with
    | nil => rfl
    | cons c after => exact hafter c rfl
  have hmark : (digit = '0' || digit = '9') = true := by
    rcases hdigit with rfl | rfl <;> rfl
  show Token.fraction? ('.' :: digit :: (List.replicate more digit ++ after))
    = _
  unfold Token.fraction? Token.runLength
  simp only [htake, hdrop, hnone, hmark, List.length_replicate,
    Nat.add_comm 1 more, Bool.not_false, Bool.and_self, if_true]

/-- What is read as a fraction starts with such a run. -/
theorem exists_run_of_fraction? {t : Text} {found : Token × Nat}
    (h : Token.fraction? t = some found) :
    ∃ digit places after, (digit = '0' ∨ digit = '9') ∧ 0 < places
      ∧ (∀ c ∈ after.head?, isDecimalDigit c = false)
      ∧ t = '.' :: List.replicate places digit ++ after := by
  unfold Token.fraction? at h
  split at h
  · next digit rest =>
    simp only at h
    split at h
    · next hcond =>
      simp only [Bool.and_eq_true, Bool.or_eq_true, decide_eq_true_eq,
        Bool.not_eq_true'] at hcond
      obtain ⟨hdigit, hnone⟩ := hcond
      have hrun : rest.takeWhile (· = digit)
          = List.replicate (rest.takeWhile (· = digit)).length digit :=
        List.eq_replicate_of_mem fun c hc => by
          simpa using List.mem_takeWhile_imp hc
      refine ⟨digit, (rest.takeWhile (· = digit)).length + 1,
        rest.dropWhile (· = digit), hdigit, Nat.succ_pos _, ?_, ?_⟩
      · intro c hc
        rw [hc] at hnone
        exact hnone
      · rw [List.replicate_succ, ← hrun]
        show _ = '.' :: digit :: (rest.takeWhile _ ++ rest.dropWhile _)
        rw [List.takeWhile_append_dropWhile]
    · cases h
  · cases h

-- ===================================================== the longest token

theorem StartsToken.ne_nil {t word : Text} (h : StartsToken t word) :
    word ≠ [] := by
  obtain ⟨after, -, hword⟩ := h
  cases hword with
  | listed hlisted =>
      obtain ⟨c, rest, rfl, -⟩ := head_of_mem_vocabulary hlisted
      exact List.cons_ne_nil c rest
  | fraction => exact List.cons_ne_nil _ _

theorem LongestToken.unique {t word word' : Text} (h : LongestToken t word)
    (h' : LongestToken t word') : word = word' := by
  have hlength : word.length = word'.length :=
    Nat.le_antisymm (h'.longest word h.starts) (h.longest word' h'.starts)
  obtain ⟨after, heq, -⟩ := h.starts
  obtain ⟨after', heq', -⟩ := h'.starts
  exact (List.append_inj (heq.symm.trans heq') hlength).1

variable {t : Text} {found : Token × Nat}

/-- A fraction that is read is the longest token: no word of the vocabulary
starts with a point, and there is one run. -/
theorem longestToken_of_fraction? (h : Token.fraction? t = some found) :
    LongestToken t found.1.word ∧ found.2 = found.1.word.length := by
  obtain ⟨digit, places, after, hdigit, hplaces, hafter, rfl⟩ :=
    exists_run_of_fraction? h
  have hrun := fraction?_run hdigit hplaces hafter
  rw [hrun] at h
  cases h
  have hword : (Token.fraction (digit = '9') places).word
      = '.' :: List.replicate places digit := by
    rcases hdigit with rfl | rfl <;> rfl
  have hlength : ('.' :: List.replicate places digit).length = 1 + places := by
    rw [List.length_cons, List.length_replicate, Nat.add_comm]
  refine ⟨⟨?_, ?_⟩, ?_⟩
  · rw [hword]
    exact ⟨after, rfl, .fraction hdigit hplaces hafter⟩
  · intro other hother
    obtain ⟨after', heq, hother⟩ := hother
    cases hother with
    | listed hlisted =>
        obtain ⟨c, rest, rfl, hc⟩ := head_of_mem_vocabulary hlisted
        exact absurd (List.cons.inj heq).1.symm hc
    | @fraction digit' places' hdigit' hplaces' hafter' =>
        rw [heq, fraction?_run hdigit' hplaces' hafter'] at hrun
        have hplaces : 1 + places' = 1 + places :=
          (Prod.mk.inj (Option.some.inj hrun)).2
        rw [hword, hlength, ← hplaces, List.length_cons,
          List.length_replicate, Nat.add_comm]
  · rw [hword, hlength]

/-- The word of the table that is found is the longest one that the text
starts with: a longer one would stand above it. -/
theorem length_le_of_find? {entry other : Text × Token}
    (hfound : Token.words.find? (fun entry => t.startsWith entry.1)
      = some entry)
    (hother : other ∈ Token.words) (hstarts' : other.1 <+: t) :
    other.1.length ≤ entry.1.length := by
  obtain ⟨hstarts, above, below, hwords, hpassed⟩ :=
    List.find?_eq_some_iff_append.1 hfound
  have hall := pairwise_words
  rw [hwords] at hother hall
  rcases List.mem_append.1 hother with habove | hbelow
  · have hpassed := hpassed other habove
    rw [startsWith, List.isPrefixOf_iff_prefix.2 hstarts'] at hpassed
    cases hpassed
  · rcases List.mem_cons.1 hbelow with rfl | hbelow
    · exact Nat.le_refl _
    · by_contra hlonger
      have hpair : startsWith other.1 entry.1 = false :=
        (List.pairwise_cons.1 (List.pairwise_append.1 hall).2.1).1 other
          hbelow
      have hprefix : entry.1 <+: other.1 :=
        List.prefix_of_prefix_length_le
          (List.isPrefixOf_iff_prefix.1 hstarts) hstarts' (by omega)
      rw [startsWith, List.isPrefixOf_iff_prefix.2 hprefix] at hpair
      cases hpair

/-- A word that is read is the longest token, where no fraction is read. -/
theorem longestToken_of_word? (hnone : Token.fraction? t = none)
    (h : Token.word? t = some found) :
    LongestToken t found.1.word ∧ found.2 = found.1.word.length := by
  obtain ⟨entry, hfound, rfl⟩ := Option.map_eq_some_iff.1 h
  have hmem : entry ∈ Token.words := List.mem_of_find?_eq_some hfound
  have hlisted : entry.1 ∈ vocabulary := by
    rw [← map_fst_words]
    exact List.mem_map_of_mem hmem
  obtain ⟨hstarts, -⟩ := List.find?_eq_some_iff_append.1 hfound
  obtain ⟨after, heq⟩ := List.isPrefixOf_iff_prefix.1 hstarts
  show LongestToken t entry.2.word ∧ entry.1.length = entry.2.word.length
  rw [word_of_mem_words hmem]
  refine ⟨⟨⟨after, heq.symm, .listed hlisted⟩, ?_⟩, rfl⟩
  rintro other ⟨after', rfl, hother⟩
  cases hother with
  | fraction hdigit hplaces hafter =>
      rw [fraction?_run hdigit hplaces hafter] at hnone
      cases hnone
  | listed hother =>
      rw [← map_fst_words] at hother
      obtain ⟨entry', hmem', rfl⟩ := List.mem_map.1 hother
      exact length_le_of_find? hfound hmem' (List.prefix_append _ _)

/-- What is read off a text is the longest token it starts with. -/
theorem longestToken_of_read? (h : Token.read? t = some found) :
    LongestToken t found.1.word ∧ found.2 = found.1.word.length := by
  unfold Token.read? at h
  split at h
  · next hfraction =>
    cases h
    exact longestToken_of_fraction? hfraction
  · next hnone => exact longestToken_of_word? hnone h

/-- Where nothing is read, no token starts. -/
theorem not_startsToken_of_read? (h : Token.read? t = none) (word : Text) :
    ¬ StartsToken t word := by
  unfold Token.read? at h
  split at h
  · cases h
  · next hnone =>
    rintro ⟨after, rfl, hword⟩
    cases hword with
    | fraction hdigit hplaces hafter =>
        rw [fraction?_run hdigit hplaces hafter] at hnone
        cases hnone
    | listed hlisted =>
        rw [← map_fst_words] at hlisted
        obtain ⟨entry, hmem, rfl⟩ := List.mem_map.1 hlisted
        have hpassed := List.find?_eq_none.1 (Option.map_eq_none_iff.1 h)
          entry hmem
        exact hpassed (List.isPrefixOf_iff_prefix.2 (List.prefix_append _ _))

-- ============================================= from the word to the token

/-- How an offset is laid out whose word goes on so after the first
character. -/
def OffsetForm.ofText (t : Text) : OffsetForm :=
  if t = "07:00" then colon else if t = "0700" then plain else hours

namespace Token

/-- The words that are looked up in a table. -/
def table : List (Text × Token) := [
  ("January", monthName),
  ("Jan", monthShort),
  ("Monday", weekdayName),
  ("Mon", weekdayShort),
  ("MST", zoneName),
  ("2006", year),
  ("06", yearShort),
  ("01", monthTwo),
  ("1", month),
  ("02", dayTwo),
  ("_2", dayBlank),
  ("2", day),
  ("15", hour),
  ("03", dialTwo),
  ("3", dial),
  ("04", minuteTwo),
  ("4", minute),
  ("05", secondTwo),
  ("5", second),
  ("PM", halfUpper),
  ("pm", halfLower)]

/-- The token that a word stands for, if it stands for one. -/
def ofWord? : Text → Option Token
  | [] => none
  | c :: rest =>
    if c = 'Z' ∨ c = '-' then some (offset (c = 'Z') (.ofText rest))
    else if c = '.' then
      rest.head?.map fun digit => fraction (digit ≠ '0') rest.length
    else table.lookup (c :: rest)

theorem ofWord?_of_mem_words {entry : Text × Token} (h : entry ∈ words) :
    ofWord? entry.1 = some entry.2 := by
  revert entry
  decide

/-- A token that is read is the one that its word stands for. -/
theorem ofWord?_of_read? (h : read? t = some found) :
    ofWord? found.1.word = some found.1 := by
  unfold read? at h
  split at h
  · next hfraction =>
    cases h
    obtain ⟨digit, places, after, hdigit, hplaces, hafter, rfl⟩ :=
      exists_run_of_fraction? hfraction
    rw [fraction?_run hdigit hplaces hafter] at hfraction
    cases hfraction
    obtain ⟨more, rfl⟩ : ∃ more, places = more + 1 := ⟨places - 1, by omega⟩
    rcases hdigit with rfl | rfl
    · show some (fraction false (List.replicate (more + 1) '0').length) = _
      rw [List.length_replicate]
      rfl
    · show some (fraction true (List.replicate (more + 1) '9').length) = _
      rw [List.length_replicate]
      rfl
  · obtain ⟨entry, hfound, rfl⟩ := Option.map_eq_some_iff.1 h
    have hmem := List.mem_of_find?_eq_some hfound
    show ofWord? entry.2.word = some entry.2
    rw [word_of_mem_words hmem]
    exact ofWord?_of_mem_words hmem

end Token

/-- Texts that start with the same tokens are read alike. -/
theorem read?_congr {s t : Text}
    (h : ∀ word, StartsToken s word ↔ StartsToken t word) :
    Token.read? s = Token.read? t := by
  cases hs : Token.read? s with
  | none =>
      cases ht : Token.read? t with
      | none => rfl
      | some found =>
          have hstarts := (longestToken_of_read? ht).1.starts
          exact absurd ((h _).2 hstarts) (not_startsToken_of_read? hs _)
  | some found =>
      cases ht : Token.read? t with
      | none =>
          have hstarts := (longestToken_of_read? hs).1.starts
          exact absurd ((h _).1 hstarts) (not_startsToken_of_read? ht _)
      | some found' =>
          obtain ⟨hlongest, hlength⟩ := longestToken_of_read? hs
          obtain ⟨hlongest', hlength'⟩ := longestToken_of_read? ht
          have hsame : LongestToken s found'.1.word :=
            ⟨(h _).2 hlongest'.starts,
              fun other hother => hlongest'.longest other ((h _).1 hother)⟩
          have hword := hlongest.unique hsame
          have htoken := Token.ofWord?_of_read? hs
          rw [hword, Token.ofWord?_of_read? ht] at htoken
          rw [Prod.ext (Option.some.inj htoken).symm
            (by rw [hlength, hlength', hword])]

end Logline.Calendar
