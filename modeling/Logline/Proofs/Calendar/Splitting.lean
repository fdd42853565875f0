/-
The split of a pattern. Splitting loses nothing, and it finds the
leftmost tokens and the longest ones at their places (`isSplit_split`);
a pattern has only one split of which that can be said (`IsSplit.unique`).

# What a split is

`IsSplit` speaks of the whole pattern and of places in it. To prove
something of it, one part is taken off the front (`isSplit_cons`): it is
filled, no second literal in a row, it fits in front of the rest, and the
rest is split.

# Why there is only one

Two splits of a pattern have first parts of one kind, because a part that
fits is a token exactly where some token starts. Two tokens that start a
text are both the longest. Of two literals neither ends first: behind the
shorter one there is a token, and it would start inside the longer one.
So the first parts are the same, and with them the rests.
-/
import Logline.Proofs.Calendar.Tokens
import Mathlib.Data.List.Chain

namespace Logline.Calendar

-- ======================================================= what a split is

/-- A part of a split pattern as it is written there. -/
structure Part where
  isToken : Bool
  text : Text
  deriving DecidableEq, Repr

def Chunk.part : Chunk → Part
  | literal t => ⟨false, t⟩
  | token found => ⟨true, found.word⟩

/-- Are the parts a pattern's leftmost longest split? They make up the
pattern, none is empty, and no two literals meet. A token is the longest
one where it starts, and nowhere inside a literal does any token start. -/
structure IsSplit (pattern : Text) (parts : List Part) : Prop where
  joined : parts.flatMap Part.text = pattern
  filled : ∀ part ∈ parts, part.text ≠ []
  apart : parts.IsChain fun a b => a.isToken = true ∨ b.isToken = true
  tokens : ∀ before text after, parts = before ++ ⟨true, text⟩ :: after →
    LongestToken (pattern.drop (before.flatMap Part.text).length) text
  literals : ∀ before text after, parts = before ++ ⟨false, text⟩ :: after →
    ∀ i < text.length, ∀ word,
      ¬ StartsToken
        (pattern.drop ((before.flatMap Part.text).length + i)) word

/-- May a part stand in front of the rest of a text? -/
def Part.Fits (part : Part) (rest : Text) : Prop :=
  if part.isToken then LongestToken (part.text ++ rest) part.text
  else ∀ i < part.text.length, ∀ word,
    ¬ StartsToken ((part.text ++ rest).drop i) word

theorem isSplit_nil : IsSplit [] [] where
  joined := rfl
  filled := fun _ hpart => absurd hpart List.not_mem_nil
  apart := List.IsChain.nil
  tokens := fun before _ _ h => by cases before <;> cases h
  literals := fun before _ _ h => by cases before <;> cases h

section Cons

variable {part : Part} {parts : List Part} {rest : Text}

/-- The first part of a split fits where it stands. -/
theorem IsSplit.fits_head (h : IsSplit (part.text ++ rest) (part :: parts)) :
    part.Fits rest := by
  obtain ⟨isToken, text⟩ := part
  cases isToken with
  | true => exact h.tokens [] text parts rfl
  | false =>
      intro i hi word
      have hnone := h.literals [] text parts rfl i hi word
      rw [List.flatMap_nil, List.length_nil, Nat.zero_add] at hnone
      exact hnone

/-- The other parts of a split are a split of what follows the first. -/
theorem IsSplit.tail (h : IsSplit (part.text ++ rest) (part :: parts)) :
    IsSplit rest parts where
  joined := List.append_cancel_left (List.flatMap_cons.symm.trans h.joined)
  filled := fun p hp => h.filled p (List.mem_cons_of_mem part hp)
  apart := (List.isChain_cons.1 h.apart).2
  tokens := by
    intro before text after heq
    have hlongest := h.tokens (part :: before) text after
      (congrArg (part :: ·) heq)
    rw [List.flatMap_cons, List.length_append, List.drop_length_add_append]
      at hlongest
    exact hlongest
  literals := by
    intro before text after heq i hi word
    have hnone := h.literals (part :: before) text after
      (congrArg (part :: ·) heq) i hi word
    rw [List.flatMap_cons, List.length_append, Nat.add_assoc,
      List.drop_length_add_append] at hnone
    exact hnone

/-- A part that fits in front of a split makes a longer one, if no two
literals meet there. -/
theorem IsSplit.cons (h : IsSplit rest parts) (hne : part.text ≠ [])
    (hnext : ∀ next ∈ parts.head?,
      part.isToken = true ∨ next.isToken = true)
    (hfits : part.Fits rest) :
    IsSplit (part.text ++ rest) (part :: parts) where
  joined := by rw [List.flatMap_cons, h.joined]
  filled := List.forall_mem_cons.2 ⟨hne, h.filled⟩
  apart := List.isChain_cons.2 ⟨hnext, h.apart⟩
  tokens := by
    intro before text after heq
    cases before with
    | nil =>
        cases heq
        exact hfits
    | cons first before =>
        obtain ⟨rfl, hparts⟩ := List.cons.inj heq
        rw [List.flatMap_cons, List.length_append,
          List.drop_length_add_append]
        exact h.tokens before text after hparts
  literals := by
    intro before text after heq i hi word
    cases before with
    | nil =>
        cases heq
        rw [List.flatMap_nil, List.length_nil, Nat.zero_add]
        exact hfits i hi word
    | cons first before =>
        obtain ⟨rfl, hparts⟩ := List.cons.inj heq
        rw [List.flatMap_cons, List.length_append, Nat.add_assoc,
          List.drop_length_add_append]
        exact h.literals before text after hparts i hi word

end Cons

/-- A split with a first part is that part, where it fits, and a split of
the rest. -/
theorem isSplit_cons {pattern : Text} {part : Part} {parts : List Part} :
    IsSplit pattern (part :: parts)
      ↔ ∃ rest, pattern = part.text ++ rest ∧ part.text ≠ []
        ∧ (∀ next ∈ parts.head?, part.isToken = true ∨ next.isToken = true)
        ∧ part.Fits rest ∧ IsSplit rest parts := by
  constructor
  · intro h
    have hpattern : pattern = part.text ++ parts.flatMap Part.text :=
      h.joined.symm
    rw [hpattern] at h
    exact ⟨_, hpattern, h.filled part List.mem_cons_self,
      (List.isChain_cons.1 h.apart).1, h.fits_head, h.tail⟩
  · rintro ⟨rest, rfl, hne, hnext, hfits, h⟩
    exact h.cons hne hnext hfits

theorem not_isSplit_nil_cons {part : Part} {parts : List Part} :
    ¬ IsSplit [] (part :: parts) := by
  intro h
  obtain ⟨rest, heq, hne, -⟩ := isSplit_cons.1 h
  exact hne (List.append_eq_nil_iff.1 heq.symm).1

-- ======================================================= only one split

/-- A part that fits starts with a token if it is one, and else with
none. -/
theorem Part.Fits.isToken_iff {part : Part} {rest : Text}
    (h : part.Fits rest) (hne : part.text ≠ []) :
    part.isToken = true ↔ ∃ word, StartsToken (part.text ++ rest) word := by
  obtain ⟨isToken, text⟩ := part
  cases isToken with
  | true => exact ⟨fun _ => ⟨text, h.starts⟩, fun _ => rfl⟩
  | false =>
      constructor
      · intro hfalse
        cases hfalse
      · rintro ⟨word, hword⟩
        exact absurd hword (h 0 (List.length_pos_of_ne_nil hne) word)

/-- A literal does not end where a longer one has a character left: what
follows it would be a token inside the longer one. -/
theorem length_le_of_literals {text text' rest rest' : Text}
    {parts : List Part} (heq : text ++ rest = text' ++ rest')
    (hfits' : Part.Fits ⟨false, text'⟩ rest')
    (hnext : ∀ next ∈ parts.head?, next.isToken = true)
    (hsplit : IsSplit rest parts) : text'.length ≤ text.length := by
  by_contra hshort
  cases parts with
  | nil =>
      have hrest : rest = [] := hsplit.joined.symm
      have hlength := congrArg List.length heq
      rw [hrest, List.append_nil, List.length_append] at hlength
      omega
  | cons next parts =>
      obtain ⟨after, rfl, hne, -, hfits, -⟩ := isSplit_cons.1 hsplit
      obtain ⟨word, hword⟩ := (hfits.isToken_iff hne).1 (hnext next rfl)
      refine hfits' text.length (by simpa using hshort) word ?_
      show StartsToken ((text' ++ rest').drop text.length) word
      rw [← heq, List.drop_left]
      exact hword

/-- Two splits of a pattern start with the same part. The pattern tells
whether it is a token. There is one longest token, and of two literals
neither ends inside the other. -/
theorem head_eq_of_isSplit {pattern : Text} {part part' : Part}
    {parts parts' : List Part} (h : IsSplit pattern (part :: parts))
    (h' : IsSplit pattern (part' :: parts')) : part = part' := by
  obtain ⟨rest, rfl, hne, hnext, hfits, hrest⟩ := isSplit_cons.1 h
  obtain ⟨rest', heq, hne', hnext', hfits', hrest'⟩ := isSplit_cons.1 h'
  have hkind : part.isToken = part'.isToken := by
    rw [Bool.eq_iff_iff, hfits.isToken_iff hne, hfits'.isToken_iff hne', heq]
  obtain ⟨isToken, text⟩ := part
  obtain ⟨isToken', text'⟩ := part'
  cases hkind
  refine congrArg (Part.mk isToken) ?_
  cases isToken with
  | true =>
      have hlongest : LongestToken (text ++ rest) text' := by
        rw [show text ++ rest = text' ++ rest' from heq]
        exact hfits'
      exact LongestToken.unique hfits hlongest
  | false =>
      have hnext : ∀ next ∈ parts.head?, next.isToken = true :=
        fun next hmem => (hnext next hmem).resolve_left nofun
      have hnext' : ∀ next ∈ parts'.head?, next.isToken = true :=
        fun next hmem => (hnext' next hmem).resolve_left nofun
      have hle := length_le_of_literals heq.symm hfits hnext' hrest'
      have hge := length_le_of_literals heq hfits' hnext hrest
      exact (List.append_inj heq (Nat.le_antisymm hle hge)).1

/-- A pattern has no two splits. -/
theorem IsSplit.unique {pattern : Text} {parts parts' : List Part}
    (h : IsSplit pattern parts) (h' : IsSplit pattern parts') :
    parts = parts' := by
  induction parts generalizing pattern parts' with
  | nil =>
      obtain rfl := h.joined
      cases parts' with
      | nil => rfl
      | cons => exact absurd h' not_isSplit_nil_cons
  | cons part parts ih =>
      cases parts' with
      | nil =>
          obtain rfl := h'.joined
          exact absurd h not_isSplit_nil_cons
      | cons part' parts' =>
          obtain rfl := head_eq_of_isSplit h h'
          obtain ⟨rest, rfl, -, -, -, hrest⟩ := isSplit_cons.1 h
          obtain ⟨rest', heq, -, -, -, hrest'⟩ := isSplit_cons.1 h'
          rw [← List.append_cancel_left heq] at hrest'
          rw [ih hrest hrest']

-- ==================================================== the split itself

/-- A token that is read is the first chunk. -/
theorem split_of_read? {t : Text} {found : Token × Nat}
    (h : Token.read? t = some found) :
    split t = .token found.1 :: split (t.drop found.2) := by
  cases t with
  | nil => cases h
  | cons c rest =>
      rw [split]
      split
      · next hfound =>
        rw [h] at hfound
        cases hfound
        rfl
      · next hnone =>
        rw [h] at hnone
        cases hnone

theorem split_of_not_read? {c : Char} {rest : Text}
    (h : Token.read? (c :: rest) = none) :
    split (c :: rest) = consLiteral c (split rest) := by
  rw [split]
  split
  · next hfound =>
    rw [h] at hfound
    cases hfound
  · rfl

/-- A character that starts no token is put to the literal that follows
it, or is one of its own. -/
theorem isSplit_consLiteral {c : Char} {rest : Text} {chunks : List Chunk}
    (hnone : ∀ word, ¬ StartsToken (c :: rest) word)
    (h : IsSplit rest (chunks.map Chunk.part)) :
    IsSplit (c :: rest) ((consLiteral c chunks).map Chunk.part) := by
  have hfirst : (∀ next ∈ (chunks.map Chunk.part).head?,
        next.isToken = true) →
      IsSplit (c :: rest) (⟨false, [c]⟩ :: chunks.map Chunk.part) := by
    intro hnext
    refine isSplit_cons.2 ⟨rest, rfl, List.cons_ne_nil c [],
      fun next hmem => .inr (hnext next hmem), ?_, h⟩
    intro i hi word
    obtain rfl : i = 0 := by simpa using hi
    exact hnone word
  cases chunks with
  | nil => exact hfirst nofun
  | cons chunk chunks =>
      cases chunk with
      | token found =>
          refine hfirst ?_
          intro next hmem
          cases hmem
          rfl
      | literal t =>
          obtain ⟨after, rfl, hne, hnext, hfits, hrest⟩ := isSplit_cons.1 h
          refine isSplit_cons.2 ⟨after, rfl, List.cons_ne_nil c t, hnext, ?_,
            hrest⟩
          intro i hi word
          cases i with
          | zero => exact hnone word
          | succ i => exact hfits i (Nat.lt_of_succ_lt_succ hi) word

/-- What a pattern is split into is a split of it. -/
theorem isSplit_split (pattern : Text) :
    IsSplit pattern ((split pattern).map Chunk.part) := by
  induction pattern using split.induct with
  | case1 =>
      rw [split]
      exact isSplit_nil
  | case2 c rest found n h ih =>
      obtain ⟨hlongest, hlength⟩ := longestToken_of_read? h
      obtain ⟨after, heq, -⟩ := hlongest.starts
      have hdrop : (c :: rest).drop n = after := by
        rw [heq]
        exact List.drop_left' hlength.symm
      rw [split_of_read? h]
      show IsSplit _ (_ :: (split ((c :: rest).drop n)).map Chunk.part)
      rw [hdrop] at ih ⊢
      refine isSplit_cons.2 ⟨after, heq, hlongest.starts.ne_nil,
        fun next _ => .inl rfl, ?_, ih⟩
      show LongestToken (found.word ++ after) found.word
      rw [← heq]
      exact hlongest
  | case3 c rest h ih =>
      rw [split_of_not_read? h]
      exact isSplit_consLiteral (not_startsToken_of_read? h) ih

/-- Splitting a pattern gives its leftmost longest split, and nothing else
is one. -/
theorem isSplit_iff_eq_split (pattern : Text) (parts : List Part) :
    IsSplit pattern parts ↔ parts = (split pattern).map Chunk.part := by
  constructor
  · intro h
    exact h.unique (isSplit_split pattern)
  · rintro rfl
    exact isSplit_split pattern

end Logline.Calendar
