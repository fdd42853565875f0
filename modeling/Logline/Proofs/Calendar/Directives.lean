/-
Directive patterns part by part. A pattern is read twice and its result
is thrown away when it is too long, so what a part of a pattern shows
could depend on all of the pattern. For the parts of this file it does
not: `Shows t part shown` says that, wherever the part stands, both
readings pass over it for themselves, the second one writing `shown`, and
that the part takes up enough of the pattern for the room to suffice.

Such parts can be put one after another (`Shows.append`), and a pattern
that consists of them is written as what they show
(`Shows.formatDirectives`). They come in two kinds. Text that the first
reading puts in with its percent signs doubled is passed on by the second
as it is (`Shows.putIn`). And a directive without a width that the first
reading leaves alone shows its field (`Shows.directive`).
-/
import Logline.Calendar.Directive
import Logline.Proofs.Text.Numeral
import Mathlib.Data.List.TakeWhile

namespace Logline.Calendar

-- ================================================================ room

theorem le_doubleUpTo (goal size : Nat) (h : 0 < size) :
    goal ≤ doubleUpTo goal size h ∧ size ≤ doubleUpTo goal size h := by
  fun_induction doubleUpTo goal size h with
  | case1 size h hle => exact ⟨hle, Nat.le_refl size⟩
  | case2 size h hlt ih => exact ⟨ih.1, by omega⟩

/-- What is at most 255 times as long as the pattern fits. -/
theorem lt_room {pattern : Text} {length : Nat}
    (h : length ≤ 255 * pattern.length) : length < room pattern := by
  obtain ⟨hgoal, hsize⟩ := le_doubleUpTo (256 * pattern.length) 1024
    (by decide)
  unfold room
  omega

-- ===================================================== doubled percents

theorem doublePercents_cons (c : Char) (t : Text) :
    doublePercents (c :: t)
      = (if c = '%' then ['%', '%'] else [c]) ++ doublePercents t :=
  List.flatMap_cons

theorem doublePercents_of_not_mem {t : Text} (h : '%' ∉ t) :
    doublePercents t = t := by
  induction t with
  | nil => rfl
  | cons c t ih =>
      rw [List.mem_cons, not_or] at h
      rw [doublePercents_cons, if_neg (Ne.symm h.1), ih h.2]
      rfl

theorem length_le_doublePercents (t : Text) :
    t.length ≤ (doublePercents t).length := by
  induction t with
  | nil => exact Nat.le_refl 0
  | cons c t ih =>
      rw [doublePercents_cons, List.length_append, List.length_cons]
      by_cases hc : c = '%'
      · rw [if_pos hc]
        simp only [List.length_cons, List.length_nil]
        omega
      · rw [if_neg hc]
        simp only [List.length_cons, List.length_nil]
        omega

theorem putZones_cons (t : Timestamp) {c : Char} (h : c ≠ '%')
    (rest : Text) : putZones t (c :: rest) = c :: putZones t rest := by
  rw [putZones]
  rintro c' rest' rfl
  exact absurd rfl h

theorem putZones_doublePercents (t : Timestamp) (s rest : Text) :
    putZones t (doublePercents s ++ rest)
      = doublePercents s ++ putZones t rest := by
  induction s with
  | nil => rfl
  | cons c s ih =>
      rw [doublePercents_cons, List.append_assoc, List.append_assoc, ← ih]
      by_cases hc : c = '%'
      · rw [if_pos hc]
        rfl
      · rw [if_neg hc]
        exact putZones_cons t hc _

-- ================================================= directives by letter

/-- A directive of flags and a conversion letter. -/
def Directive.ofLetter (flags : Text) (c : Char) : Directive :=
  ⟨flags, [], none, some c⟩

namespace Directive

/-- Does a character end a directive? It is then no flag, no digit of a
width and no variant. -/
def isLetter (c : Char) : Bool :=
  !isFlag c && !c.isDigit && !isVariant c

/-- Flags and the letter behind them are read as a directive of their
own. -/
theorem read_ofLetter {flags : Text} {c : Char}
    (hflags : ∀ f ∈ flags, isFlag f = true) (hletter : isLetter c = true)
    (rest : Text) :
    read (flags ++ c :: rest) = (ofLetter flags c, rest) := by
  simp only [isLetter, Bool.and_eq_true, Bool.not_eq_true'] at hletter
  obtain ⟨⟨hflag, hdigit⟩, hvariant⟩ := hletter
  have htake : (flags ++ c :: rest).takeWhile isFlag = flags := by
    rw [List.takeWhile_append_of_pos hflags,
      List.takeWhile_cons_of_neg (by simp [hflag]), List.append_nil]
  have hdrop : (flags ++ c :: rest).dropWhile isFlag = c :: rest := by
    rw [List.dropWhile_append_of_pos hflags,
      List.dropWhile_cons_of_neg (by simp [hflag])]
  simp only [read, htake, hdrop, List.takeWhile_cons, List.dropWhile_cons,
    hdigit, List.head?_cons, List.tail_cons, Option.any_some,
    Option.filter_some, hvariant, Bool.false_eq_true, if_false]
  rfl

theorem read_letter {c : Char} (hletter : isLetter c = true) (rest : Text) :
    read (c :: rest) = (ofLetter [] c, rest) :=
  read_ofLetter (List.forall_mem_nil _) hletter rest

variable {d : Directive} (hwidth : d.width = [])
include hwidth

theorem fieldWidth_of_width_nil (room : Nat) : d.fieldWidth room = 0 := by
  rw [fieldWidth, hwidth]
  exact Nat.zero_min room

theorem fillWord_of_width_nil (room : Nat) (t : Text) :
    fillWord d room t = t := by
  rw [fillWord, fieldWidth_of_width_nil hwidth]
  show List.replicate (0 - t.length) _ ++ t = t
  rw [Nat.zero_sub]
  rfl

/-- Without a flag either, a numeral has the places of its field. -/
theorem fillNumber_of_no_flag (hfill : fillFlag d.flags = none)
    (room places value : Nat) (blank : Bool) :
    fillNumber d room places value blank
      = (Text.ofNat value).leftpad places (if blank then ' ' else '0') := by
  simp only [fillNumber, hfill, fieldWidth_of_width_nil hwidth, Nat.max_zero]

/-- The flag against filling leaves the numeral as it is. -/
theorem fillNumber_of_minus (hfill : fillFlag d.flags = some '-')
    (room places value : Nat) (blank : Bool) :
    fillNumber d room places value blank = Text.ofNat value := by
  simp only [fillNumber, hfill, fieldWidth_of_width_nil hwidth]
  show List.replicate (0 - (Text.ofNat value).length) ' '
    ++ Text.ofNat value = Text.ofNat value
  rw [Nat.zero_sub]
  rfl

end Directive

-- ================================================== the second reading

theorem showDirectives_percent (t : Timestamp) (room : Nat) (rest : Text) :
    showDirectives t room ('%' :: rest)
      = (Directive.read rest).1.show t room
        ++ showDirectives t room (Directive.read rest).2 := by
  rw [showDirectives, if_pos rfl]

/-- The second reading undoes the doubling of percent signs. -/
theorem showDirectives_doublePercents (t : Timestamp) (room : Nat)
    (s rest : Text) :
    showDirectives t room (doublePercents s ++ rest)
      = s ++ showDirectives t room rest := by
  induction s with
  | nil => rfl
  | cons c s ih =>
      rw [doublePercents_cons, List.append_assoc, List.cons_append, ← ih]
      by_cases hc : c = '%'
      · rw [if_pos hc, hc]
        show showDirectives t room ('%' :: '%' :: (doublePercents s ++ rest))
          = _
        have hshow : (Directive.ofLetter [] '%').show t room = ['%'] :=
          Directive.fillWord_of_width_nil rfl room ['%']
        rw [showDirectives_percent, Directive.read_letter (c := '%') rfl,
          hshow]
        rfl
      · rw [if_neg hc]
        show showDirectives t room (c :: _) = _
        rw [showDirectives, if_neg hc]
        rfl

-- =========================================================== the parts

/-- A part of a pattern that shows a text wherever it stands. -/
structure Shows (t : Timestamp) (part shown : Text) : Prop where
  /-- The first reading goes over the part by itself. -/
  first : ∀ rest,
    putZones t (part ++ rest) = putZones t part ++ putZones t rest
  /-- The second reading writes the text and goes on after the part. -/
  second : ∀ room rest, showDirectives t room (putZones t part ++ rest)
    = shown ++ showDirectives t room rest
  /-- The part makes room for the text. -/
  fits : shown.length ≤ 255 * (putZones t part).length

namespace Shows

variable {t : Timestamp} {part shown : Text}

theorem nil : Shows t [] [] where
  first _ := rfl
  second _ _ := rfl
  fits := Nat.le_refl 0

theorem append {part' shown' : Text} (h : Shows t part shown)
    (h' : Shows t part' shown') :
    Shows t (part ++ part') (shown ++ shown') where
  first rest := by
    rw [List.append_assoc, h.first, h'.first, h.first part',
      List.append_assoc]
  second room rest := by
    rw [h.first, List.append_assoc, h.second, h'.second, List.append_assoc]
  fits := by
    have := h.fits
    have := h'.fits
    rw [h.first, List.length_append, List.length_append]
    omega

/-- A pattern of parts is written as what its parts show. -/
theorem formatDirectives (h : Shows t part shown) :
    formatDirectives t part = shown := by
  have hshown : ∀ room, showDirectives t room (putZones t part) = shown := by
    intro room
    have hsecond := h.second room []
    rw [showDirectives, List.append_nil, List.append_nil] at hsecond
    exact hsecond
  simp only [Calendar.formatDirectives, hshown, if_pos (lt_room h.fits)]

/-- A part that the first reading replaces by a text with its percent
signs doubled shows the text. -/
theorem putIn (h : ∀ rest, putZones t (part ++ rest)
    = doublePercents shown ++ putZones t rest) : Shows t part shown := by
  have hpart : putZones t part = doublePercents shown := by
    have hnil := h []
    rw [putZones, List.append_nil, List.append_nil] at hnil
    exact hnil
  refine ⟨?_, ?_, ?_⟩
  · intro rest
    rw [h, hpart]
  · intro room rest
    rw [hpart, showDirectives_doublePercents]
  · have := length_le_doublePercents shown
    rw [hpart]
    omega

theorem literal (t : Timestamp) (s : Text) : Shows t (doublePercents s) s :=
  putIn fun rest => putZones_doublePercents t s rest

section Directive

variable {flags : Text} {c : Char}
  (hkept : ∀ rest, putZones t ('%' :: flags ++ c :: rest)
    = '%' :: flags ++ c :: putZones t rest)
  (hflags : ∀ f ∈ flags, isFlag f = true)
  (hletter : Directive.isLetter c = true)
include hkept hflags hletter

/-- A directive that the first reading leaves alone shows its field. -/
theorem directive
    (hshow : ∀ room, (Directive.ofLetter flags c).show t room = shown)
    (hlength : shown.length ≤ 255) :
    Shows t ('%' :: flags ++ [c]) shown := by
  have hpart : putZones t ('%' :: flags ++ [c]) = '%' :: flags ++ [c] := by
    rw [hkept []]
    rfl
  have hpos : 1 ≤ ('%' :: flags ++ [c]).length := by
    rw [List.length_append]
    exact Nat.le_add_left _ _
  refine ⟨?_, ?_, ?_⟩
  · intro rest
    rw [hpart, List.append_assoc, List.append_assoc]
    exact hkept rest
  · intro room rest
    rw [hpart, List.append_assoc, List.cons_append, showDirectives_percent,
      List.singleton_append, Directive.read_ofLetter hflags hletter, hshow]
  · rw [hpart]
    omega

end Directive

/-- The numbers of a timestamp are short. -/
theorem length_leftpad_le {places n : Nat} (fill : Char)
    (hplaces : places ≤ 4) (h : n < 10000) :
    ((Text.ofNat n).leftpad places fill).length ≤ 255 := by
  have : (Text.ofNat n).length ≤ 4 :=
    (Text.length_ofNat_le_iff (by decide)).2 h
  rw [List.length_leftpad]
  omega

section Letter

variable {c : Char} {variants : Variants}
  (hkept : ∀ rest, putZones t ('%' :: c :: rest)
    = '%' :: c :: putZones t rest)
  (hletter : Directive.isLetter c = true)
include hkept hletter

theorem number {places value : Nat}
    (hfield : field? t c = some (variants, .number places value))
    (hplaces : places ≤ 4) (hvalue : value < 10000) :
    Shows t ['%', c] (Text.zeroPadded places value) := by
  refine directive hkept (List.forall_mem_nil _) hletter ?_
    (length_leftpad_le '0' hplaces hvalue)
  intro room
  simp only [Directive.show, Directive.ofLetter, Option.bind_some, hfield,
    Variants.allow, if_true]
  exact Directive.fillNumber_of_no_flag rfl rfl room places value false

theorem blankNumber {places value : Nat}
    (hfield : field? t c = some (variants, .blankNumber places value))
    (hplaces : places ≤ 4) (hvalue : value < 10000) :
    Shows t ['%', c] (Text.blankPadded places value) := by
  refine directive hkept (List.forall_mem_nil _) hletter ?_
    (length_leftpad_le ' ' hplaces hvalue)
  intro room
  simp only [Directive.show, Directive.ofLetter, Option.bind_some, hfield,
    Variants.allow, if_true]
  exact Directive.fillNumber_of_no_flag rfl rfl room places value true

theorem word {plain : Text} {swapped : Option Text}
    (hfield : field? t c = some (variants, .word plain swapped))
    (hlength : plain.length ≤ 255) : Shows t ['%', c] plain := by
  refine directive hkept (List.forall_mem_nil _) hletter ?_ hlength
  intro room
  have hplain := (Directive.ofLetter [] c).fillWord_of_width_nil rfl room
    plain
  simp only [Directive.show, Directive.ofLetter, Option.bind_some, hfield,
    Variants.allow, if_true]
  cases swapped with
  | none => exact hplain
  | some other => exact hplain

theorem small {plain : Text}
    (hfield : field? t c = some (variants, .small plain))
    (hlength : plain.length ≤ 255) : Shows t ['%', c] plain := by
  refine directive hkept (List.forall_mem_nil _) hletter ?_ hlength
  intro room
  simp only [Directive.show, Directive.ofLetter, Option.bind_some, hfield,
    Variants.allow, if_true]
  exact Directive.fillWord_of_width_nil rfl room plain

end Letter

/-- With the flag against filling, a letter shows the bare numeral. -/
theorem unfilled {c : Char} {variants : Variants} {places value : Nat}
    (hkept : ∀ rest, putZones t ('%' :: '-' :: c :: rest)
      = '%' :: '-' :: c :: putZones t rest)
    (hletter : Directive.isLetter c = true)
    (hfield : field? t c = some (variants, .number places value))
    (hvalue : value < 10000) :
    Shows t ['%', '-', c] (Text.ofNat value) := by
  have hflags : ∀ f ∈ ['-'], isFlag f = true := by
    intro f hf
    cases List.mem_singleton.1 hf
    rfl
  have hlength := length_leftpad_le '0' (Nat.zero_le 4) hvalue
  rw [List.length_leftpad, Nat.zero_max] at hlength
  refine directive hkept hflags hletter ?_ hlength
  intro room
  simp only [Directive.show, Directive.ofLetter, Option.bind_some, hfield,
    Variants.allow, if_true]
  exact Directive.fillNumber_of_minus rfl rfl room places value false

end Shows

end Logline.Calendar
