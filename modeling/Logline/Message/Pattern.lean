/-
Message patterns. A message can be a pattern that its arguments are
filled into: text with fields. A field starts with a percent sign; then
come, each only where it is wanted, the name of an argument in
parentheses, flags, a width, a point with a precision, a letter for the
size, which means nothing, and last the letter of the conversion. A star
in place of the width or the precision leaves it to an argument. Two
percent signs side by side are a percent sign.

Reading a pattern never fails. A field that the text breaks off lacks its
letter, and a name may lack its closing parenthesis; filling refuses such
fields, and only when it gets to them.
-/
import Logline.Text

namespace Logline.Message

/-- The flags of a field. -/
structure Flags where
  /-- The text stands on the left of its field. -/
  left : Bool := false
  /-- A plus sign marks numbers that are not negative. -/
  plus : Bool := false
  /-- A blank stands where a minus sign would. -/
  blank : Bool := false
  /-- Numbers are written in their alternate form. -/
  alternate : Bool := false
  /-- Numbers are filled with zeros. -/
  zeros : Bool := false
  deriving DecidableEq, Repr

/-- A width or a precision. -/
inductive Amount where
  | absent
  | given (n : Nat)
  /-- The next argument is the amount. -/
  | taken
  deriving DecidableEq, Repr

/-- The name of the argument that a field asks for. -/
inductive Key where
  | absent
  | named (name : Text)
  /-- The name has no end. -/
  | unclosed
  deriving DecidableEq, Repr

/-- A field of a pattern. -/
structure Field where
  key : Key
  flags : Flags
  width : Amount
  precision : Amount
  /-- The letter of the conversion; none when the pattern breaks off. -/
  letter : Option Char
  /-- The place of the letter in the pattern. -/
  place : Nat
  deriving DecidableEq, Repr

/-- A part of a pattern. -/
inductive Item where
  | literal (c : Char)
  | field (f : Field)
  deriving DecidableEq, Repr

-- ===================================================== parts of a field

/-- The text up to the parenthesis that closes an open one, and the rest;
`depth` more are open inside. -/
def untilClosed : Nat → Text → Option (Text × Text)
  | _, [] => none
  | depth, c :: rest =>
    if c = ')' ∧ depth = 0 then some ([], rest)
    else
      let depth :=
        if c = '(' then depth + 1 else if c = ')' then depth - 1 else depth
      (untilClosed depth rest).map fun (name, after) => (c :: name, after)

/-- The name of the argument. -/
def readKey (t : Text) : Key × Text :=
  match t with
  | '(' :: rest =>
    match untilClosed 0 rest with
    | some (name, rest) => (.named name, rest)
    | none => (.unclosed, [])
  | _ => (.absent, t)

/-- Sets the flag that a character stands for. -/
def addFlag? (flags : Flags) : Char → Option Flags
  | '-' => some { flags with left := true }
  | '+' => some { flags with plus := true }
  | ' ' => some { flags with blank := true }
  | '#' => some { flags with alternate := true }
  | '0' => some { flags with zeros := true }
  | _ => none

/-- The flags. -/
def readFlags (flags : Flags) : Text → Flags × Text
  | [] => (flags, [])
  | c :: rest =>
    match addFlag? flags c with
    | some flags => readFlags flags rest
    | none => (flags, c :: rest)

/-- A width, or a precision after its point. -/
def readAmount (t : Text) : Amount × Text :=
  match t with
  | '*' :: rest => (.taken, rest)
  | _ =>
    match t.takeWhile Char.isDigit with
    | [] => (.absent, t)
    | digits => (.given (Text.toNat digits), t.dropWhile Char.isDigit)

/-- The precision with its point; a point alone stands for zero. -/
def readPrecision (t : Text) : Amount × Text :=
  match t with
  | '.' :: rest =>
    match readAmount rest with
    | (.absent, rest) => (.given 0, rest)
    | read => read
  | _ => (.absent, t)

/-- The text after the letter for the size. -/
def skipSize : Text → Text
  | 'h' :: rest => rest
  | 'l' :: rest => rest
  | 'L' :: rest => rest
  | t => t

/-- A field after its percent sign, and the rest. The pattern is `size`
characters long. -/
def readField (size : Nat) (t : Text) : Field × Text :=
  let (key, t) := readKey t
  let (flags, t) := readFlags {} t
  let (width, t) := readAmount t
  let (precision, t) := readPrecision t
  let t := skipSize t
  (⟨key, flags, width, precision, t.head?, size - t.length⟩, t.tail)

-- ============================================= what is read is consumed

/-- What stands behind the closing bracket is no longer than the text. -/
theorem length_untilClosed {depth : Nat} {t name rest : Text}
    (h : untilClosed depth t = some (name, rest)) :
    rest.length ≤ t.length := by
  induction t generalizing depth name rest with
  | nil => simp [untilClosed] at h
  | cons c t ih =>
    simp only [untilClosed] at h
    split at h
    · simp_all
    · obtain ⟨⟨name', rest'⟩, hread, hpair⟩ := Option.map_eq_some_iff.1 h
      have hle := ih hread
      simp only [Prod.mk.injEq] at hpair
      simp only [← hpair.2, List.length_cons]
      omega

theorem length_readKey_le (t : Text) :
    (readKey t).2.length ≤ t.length := by
  unfold readKey
  split
  · split
    · rename_i h
      have := length_untilClosed h
      simp only [List.length_cons]
      omega
    · simp
  · exact Nat.le_refl _

theorem length_readFlags_le (flags : Flags) (t : Text) :
    (readFlags flags t).2.length ≤ t.length := by
  induction t generalizing flags with
  | nil => simp [readFlags]
  | cons c t ih =>
    simp only [readFlags]
    split
    · exact Nat.le_succ_of_le (ih _)
    · exact Nat.le_refl _

theorem length_readAmount_le (t : Text) :
    (readAmount t).2.length ≤ t.length := by
  unfold readAmount
  split
  · simp
  · split
    · exact Nat.le_refl _
    · exact (List.dropWhile_sublist _).length_le

theorem length_readPrecision_le (t : Text) :
    (readPrecision t).2.length ≤ t.length := by
  unfold readPrecision
  split
  · rename_i rest
    have := length_readAmount_le rest
    split <;> simp_all <;> omega
  · exact Nat.le_refl _

theorem length_skipSize_le (t : Text) : (skipSize t).length ≤ t.length := by
  unfold skipSize
  split <;> simp

theorem length_readField_le (size : Nat) (t : Text) :
    (readField size t).2.length ≤ t.length := by
  simp only [readField, List.length_tail]
  have h1 := length_readKey_le t
  have h2 := length_readFlags_le {} (readKey t).2
  have h3 := length_readAmount_le (readFlags {} (readKey t).2).2
  have h4 := length_readPrecision_le
    (readAmount (readFlags {} (readKey t).2).2).2
  have h5 := length_skipSize_le
    (readPrecision (readAmount (readFlags {} (readKey t).2).2).2).2
  omega

-- ========================================================= the pattern

/-- The parts of the rest of a pattern that is `size` characters long. -/
def readItems (size : Nat) (t : Text) : List Item :=
  match t with
  | [] => []
  | '%' :: '%' :: rest => .literal '%' :: readItems size rest
  | '%' :: rest =>
    let read := readField size rest
    .field read.1 :: readItems size read.2
  | c :: rest => .literal c :: readItems size rest
termination_by t.length
decreasing_by
  · simp only [List.length_cons]
    omega
  · have := length_readField_le size rest
    simp only [List.length_cons]
    omega
  · simp

/-- The parts of a pattern. -/
def items (pattern : Text) : List Item :=
  readItems pattern.length pattern

end Logline.Message
