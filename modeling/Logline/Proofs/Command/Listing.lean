/-
What a listing of pieces tells. A layout may hold any characters, line
breaks and whole lines of a listing among them, but in a listing all texts
are quoted. So each piece takes one line, and the lines of the output are
the entries of the pieces, a blank line and the count (`splitOn_listing`).

The entries say all there is to know. A place is digits only and a kind of
piece is one word, so the first two blanks of an entry are where its parts
end, and the third part is read back from its quotes (`readLine?_entry`).
As a layout can be had from its pieces, it can be had from its listing.
-/
import Logline.Proofs.Command.Agreement
import Logline.Proofs.Layout.Roundtrip
import Logline.Proofs.Text.Quoted

namespace Logline

/-- Lines that are ended by line breaks are what their text is split
into. -/
theorem Text.splitOn_lines {ts : List Text} (h : ∀ t ∈ ts, '\n' ∉ t)
    (rest : Text) :
    (ts.flatMap (· ++ ['\n']) ++ rest).splitOn '\n'
      = ts ++ rest.splitOn '\n' := by
  induction ts with
  | nil => rfl
  | cons t ts ih =>
      have hts := ih fun t ht => h t (List.mem_cons_of_mem _ ht)
      rw [List.flatMap_cons, List.append_assoc, List.append_assoc,
        List.singleton_append,
        List.splitOn_append_cons_self_of_not_mem (h t List.mem_cons_self),
        hts]
      rfl

namespace Command

open Calendar Layout

-- ============================================================= entries

/-- The entries of pieces, from the place zero on. -/
def entries (pieces : List Piece) : List Text :=
  pieces.zipIdx.map fun (piece, place) => entry place piece

/-- What a listing says of the number of pieces. -/
def countLine (count : Nat) : Text :=
  "Compiled " ++ Text.ofNat count ++ " pieces."

/-- The piece of an entry: its kind stands behind the first blank, and its
payload behind the second, in quotes. -/
def readLine? (line : Text) : Option Piece :=
  match Text.cutAt ' ' line with
  | (_, none) => none
  | (_, some behindPlace) =>
    match Text.cutAt ' ' behindPlace with
    | (_, none) => none
    | (kind, some quoted) =>
      match Text.readQuoted? quoted with
      | some (payload, []) => some ⟨Kind.ofName kind, payload⟩
      | _ => none

/-- The pieces of a listing, whose entries stand above its first blank
line. -/
def readListing? (output : Text) : Option (List Piece) :=
  ((output.splitOn '\n').takeWhile (· ≠ [])).mapM readLine?

section Entries

variable {piece : Piece} {pieces : List Piece}

/-- The kinds of compiled pieces are told by their names, which are
words. -/
theorem ofName_name_of_wellFormed (h : piece.WellFormed) :
    Kind.ofName piece.kind.name = piece.kind ∧ ' ' ∉ piece.kind.name
      ∧ '\n' ∉ piece.kind.name := by
  have hwords : ∀ kind ∈ [Kind.text, .loggerName, .timestamp, .level,
      .message], Kind.ofName kind.name = kind ∧ ' ' ∉ kind.name
        ∧ '\n' ∉ kind.name := by decide
  refine hwords piece.kind ?_
  obtain ⟨kind, payload⟩ := piece
  cases kind with
  | other name => exact h.elim
  | _ => simp

theorem not_mem_ofNat {c : Char} (h : c.isDigit = false) (place : Nat) :
    c ∉ Text.ofNat place := by
  intro hmem
  rw [Text.isDigit_of_mem_ofNat hmem] at h
  cases h

/-- The three parts of an entry, with a blank between them. -/
theorem entry_eq (place : Nat) (piece : Piece) :
    entry place piece = Text.ofNat place ++ ' ' :: (piece.kind.name ++
      ' ' :: Text.quoted piece.payload) := by
  show Text.ofNat place ++ [' '] ++ piece.kind.name ++ [' '] ++ _ = _
  simp only [List.append_assoc, List.cons_append, List.nil_append]

theorem entry_ne_nil (place : Nat) (piece : Piece) :
    entry place piece ≠ [] := by
  rw [entry_eq]
  exact List.append_ne_nil_of_right_ne_nil _ (List.cons_ne_nil _ _)

theorem newline_not_mem_entry (h : piece.WellFormed) (place : Nat) :
    '\n' ∉ entry place piece := by
  obtain ⟨-, -, hkind⟩ := ofName_name_of_wellFormed h
  have hplace := not_mem_ofNat (c := '\n') rfl place
  have hpayload := Text.newline_not_mem_quoted piece.payload
  have hblank : '\n' ≠ ' ' := by decide
  rw [entry_eq]
  simp only [List.mem_append, List.mem_cons, hplace, hkind, hpayload,
    hblank, or_self, not_false_eq_true]

/-- An entry tells its piece. -/
theorem readLine?_entry (h : piece.WellFormed) (place : Nat) :
    readLine? (entry place piece) = some piece := by
  obtain ⟨hname, hkind, -⟩ := ofName_name_of_wellFormed h
  have hplace := not_mem_ofNat (c := ' ') rfl place
  have hpayload := Text.readQuoted?_quoted piece.payload []
  rw [List.append_nil] at hpayload
  simp only [readLine?, entry_eq, Text.cutAt_append hplace,
    Text.cutAt_append hkind, hpayload, hname]

/-- The entries of pieces tell the pieces, whatever the first place is. -/
theorem mapM_readLine? (h : ∀ piece ∈ pieces, piece.WellFormed)
    (first : Nat) :
    ((pieces.zipIdx first).map fun (piece, place) =>
        entry place piece).mapM readLine? = some pieces := by
  induction pieces generalizing first with
  | nil => rfl
  | cons piece pieces ih =>
      have hrest := ih (fun p hp => h p (List.mem_cons_of_mem _ hp)) (first + 1)
      rw [List.zipIdx_cons, List.map_cons, List.mapM_cons,
        readLine?_entry (h piece List.mem_cons_self), hrest]
      rfl

theorem newline_not_mem_entries (h : ∀ piece ∈ pieces, piece.WellFormed) :
    ∀ line ∈ entries pieces, '\n' ∉ line := by
  intro line hline
  obtain ⟨⟨piece, place⟩, hmem, rfl⟩ := List.mem_map.1 hline
  exact newline_not_mem_entry (h piece (List.fst_mem_of_mem_zipIdx hmem)) place

theorem entries_ne_nil :
    ∀ line ∈ entries pieces, line ≠ [] := by
  intro line hline
  obtain ⟨⟨piece, place⟩, -, rfl⟩ := List.mem_map.1 hline
  exact entry_ne_nil place piece

end Entries

-- ============================================================ listings

section Listings

variable {template : Template}

/-- A listing is its entries, a blank line and the count, each with a line
break. -/
theorem listing_eq (template : Template) :
    listing template = (entries template.pieces ++
      [[], countLine template.pieces.length]).flatMap (· ++ ['\n']) := by
  have hentries : (template.pieces.zipIdx.map fun (piece, place) =>
      listingLine place piece).flatten
        = (entries template.pieces).flatMap (· ++ ['\n']) := by
    rw [List.flatMap_def, entries, List.map_map]
    rfl
  have hcount : [[], countLine template.pieces.length].flatMap (· ++ ['\n'])
      = '\n' :: (countLine template.pieces.length ++ ['\n']) := by
    rw [List.flatMap_cons, List.flatMap_singleton]
    rfl
  unfold listing
  rw [hentries, List.flatMap_append, hcount, List.append_assoc,
    List.append_assoc]
  refine congrArg _ ?_
  show '\n' :: ("Compiled ".toList ++ (Text.ofNat template.pieces.length ++
    (" pieces.".toList ++ ['\n']))) = _
  unfold countLine
  rw [← List.append_assoc, ← List.append_assoc]

theorem newline_not_mem_countLine (count : Nat) : '\n' ∉ countLine count := by
  have hfront : '\n' ∉ "Compiled ".toList := by decide
  have hback : '\n' ∉ " pieces.".toList := by decide
  intro h
  rcases List.mem_append.1 h with h | h
  · rcases List.mem_append.1 h with h | h
    · exact hfront h
    · exact not_mem_ofNat rfl count h
  · exact hback h

/-- The lines of a listing; nothing is left behind its last line break. -/
theorem splitOn_listing (h : ∀ piece ∈ template.pieces, piece.WellFormed) :
    (listing template).splitOn '\n' = entries template.pieces ++
      [[], countLine template.pieces.length, []] := by
  have hlines : ∀ line ∈ entries template.pieces ++
      [[], countLine template.pieces.length], '\n' ∉ line := by
    intro line hline
    rcases List.mem_append.1 hline with hline | hline
    · exact newline_not_mem_entries h line hline
    · rcases List.mem_pair.1 hline with rfl | rfl
      · exact List.not_mem_nil
      · exact newline_not_mem_countLine _
  have hsplit := Text.splitOn_lines hlines []
  rw [List.append_nil, ← listing_eq] at hsplit
  rw [hsplit, List.splitOn_nil, List.append_assoc]
  rfl

/-- A listing tells its pieces. -/
theorem readListing?_listing
    (h : ∀ piece ∈ template.pieces, piece.WellFormed) :
    readListing? (listing template) = some template.pieces := by
  have hblank : (entries template.pieces ++
      [[], countLine template.pieces.length, []]).takeWhile (· ≠ [])
        = entries template.pieces := by
    rw [List.takeWhile_append_of_pos
      fun line hline => decide_eq_true (entries_ne_nil line hline)]
    exact List.append_nil _
  unfold readListing?
  rw [splitOn_listing h, hblank]
  exact mapM_readLine? h 0

end Listings

-- ========================================================= whole runs

theorem run_check {layout : Text} {template : Template}
    (h : compile layout = .ok template) (now : Timestamp)
    (env : Environment) :
    run now env ["check", "--", layout]
      = .ended ⟨0, listing template, []⟩ := by
  unfold run
  rw [read_checkWords]
  simp only [runCheck, compileTool, h]
  rfl

/-- Checking a layout that compiles lists its pieces, one on a line, by
their places in order; below them are a blank line and the count. The
pieces can be read back from the output, and so can the layout. So two
layouts never have the same output, whatever characters and lines they
hold. -/
theorem run_check_tells_layout (now : Timestamp) (env : Environment)
    {layout : Text} {template : Template}
    (h : compile layout = .ok template) :
    ∃ o, run now env ["check", "--", layout] = .ended o
      ∧ o.exitCode = 0 ∧ o.stderr = []
      ∧ o.stdout.splitOn '\n' = entries template.pieces ++
        [[], countLine template.pieces.length, []]
      ∧ readListing? o.stdout = some template.pieces
      ∧ (readListing? o.stdout).map unparse = some layout
      ∧ ∀ now' env' layout' template' o',
        compile layout' = .ok template' →
        run now' env' ["check", "--", layout'] = .ended o' →
        o'.stdout = o.stdout → layout' = layout := by
  have hread := readListing?_listing (normalForm_of_compile h).1
  refine ⟨_, run_check h now env, rfl, rfl,
    splitOn_listing (normalForm_of_compile h).1, hread, ?_, ?_⟩
  · rw [hread, Option.map_some, unparse_of_compile h]
  · intro now' env' layout' template' o' h' hrun hsame
    rw [run_check h' now' env'] at hrun
    cases hrun
    have hread' := readListing?_listing (normalForm_of_compile h').1
    rw [show listing template' = listing template from hsame, hread] at hread'
    exact layout_eq_of_pieces_eq h' h (Option.some.inj hread').symm

/-- A layout that has the last lines of another listing in it, and quotes
of both kinds. -/
theorem run_check_tells_layout_imitation :
    let layout : Text := "'\n\nCompiled 1 pieces.\n\\\u200b%d\x7b\"\x7d"
    ∃ o, run .first .empty ["check", "--", layout] = .ended o
      ∧ o.stdout = "0 text \"'\\n\\nCompiled 1 pieces.\\n\\\\\\u200b\"\n" ++
        "1 timestamp '\"'\n\nCompiled 2 pieces.\n"
      ∧ (readListing? o.stdout).map unparse = some layout := by
  intro layout
  have hlayout : compile layout = .ok
      ⟨[⟨.text, "'\n\nCompiled 1 pieces.\n\\\u200b"⟩, ⟨.timestamp, "\""⟩],
        layout⟩ := by decide +kernel
  obtain ⟨o, hrun, -, -, -, -, htold, -⟩ :=
    run_check_tells_layout .first .empty hlayout
  refine ⟨o, hrun, ?_, htold⟩
  rw [run_check hlayout] at hrun
  cases hrun
  show listing _ = _
  decide +kernel

end Command

end Logline
