/-
The command line and the tools agree on any text.

Texts reach a tool through two grammars. The grammar of the whole line
hands over what follows the word of a command as it is (`read_command`).
In the command's own grammar an option that is named in full before an
equals sign has the rest of its word for a value, and a word behind the
end of the options is a plain one. So a line of settings, the end of the
options and one more word is read as just that, whatever the texts look
like (`read_settings`). The one text that does not get through as the
value of a setting is that of the end of the options, which is dropped.

The request that is read is then the one that asks the tool for the same
texts, and as its timestamp is given it does not matter when it is asked
(`RenderRequest.line_congr_now`).
-/
import Logline.Proofs.Command.Outcome
import Logline.Proofs.Tool.Line

namespace Logline

open Calendar Layout

namespace Command

-- ============================================================= settings

/-- A setting as it is written in a word: an option and its value. -/
def setting (s : Text × Text) : Text := s.1 ++ '=' :: s.2

/-- Does a grammar have an option of the name, of which the value may be
any text? -/
def Grammar.Takes (g : Grammar) (name : Text) : Prop :=
  ∀ value, roleOf g.options (setting (name, value))
    = .ok (.option (.valued name []) (some value))

section Settings

variable {g : Grammar} {settings : List (Text × Text)}

/-- A setting with its role. -/
private def settingWord (s : Text × Text) : Word :=
  ⟨setting s, .option (.valued s.1 []) (some s.2)⟩

private theorem setting_ne_endOfOptions (s : Text × Text) :
    setting s ≠ endOfOptions := by
  intro heq
  have hmem : '=' ∈ setting s :=
    List.mem_append_right _ List.mem_cons_self
  rw [heq] at hmem
  revert hmem
  decide

/-- Words that set options, in front of others, are taken for just that. -/
private theorem classify_settings
    (htakes : ∀ s ∈ settings, g.Takes s.1) (words : List Text) :
    classify g.options (settings.map setting ++ words)
      = (classify g.options words).map (settings.map settingWord ++ ·) := by
  induction settings with
  | nil =>
      show classify g.options words = _
      cases classify g.options words <;> rfl
  | cons s rest ih =>
      have hrest := ih fun s' hs' => htakes s' (List.mem_cons_of_mem s hs')
      have hrole := htakes s List.mem_cons_self s.2
      rw [List.map_cons, List.cons_append, classify,
        if_neg (setting_ne_endOfOptions s), hrole, hrest]
      cases classify g.options words <;> rfl

private theorem step_setting {p : Progress} (hturn : p.turn = .free)
    {s : Text × Text} (hvalue : s.2 ≠ endOfOptions) :
    p.step (settingWord s) = .ok (p.keep s.1 (some s.2)) := by
  have hchoices : ¬ (([] : List Text) ≠ [] ∧ s.2 ∉ ([] : List Text)) :=
    fun h => h.1 rfl
  rw [Progress.step, hturn]
  show p.give (.valued s.1 []) s.2 = _
  rw [Progress.give, if_neg hvalue, if_neg hchoices]

/-- Settings are kept one after another, the last one first. -/
private theorem foldlM_settings
    (hvalues : ∀ s ∈ settings, s.2 ≠ endOfOptions) (r : Reading)
    (place : Place) :
    (settings.map settingWord).foldlM Progress.step ⟨r, place, .free⟩
      = .ok ⟨{ r with values :=
          (settings.map fun s => (s.1, some s.2)).reverse ++ r.values },
        place, .free⟩ := by
  induction settings generalizing r with
  | nil => rfl
  | cons s rest ih =>
      have hrest := ih (fun s' hs' => hvalues s' (List.mem_cons_of_mem s hs'))
        { r with values := (s.1, some s.2) :: r.values }
      have hstep : Progress.step ⟨r, place, .free⟩ (settingWord s) = _ :=
        step_setting rfl (hvalues s List.mem_cons_self)
      rw [List.map_cons, List.foldlM_cons, hstep]
      refine hrest.trans ?_
      rw [List.map_cons, List.reverse_cons, List.append_assoc]
      rfl

/-- Settings and, behind the end of the options, a word for the place are
read as what they say. -/
theorem read_settings (g : Grammar) {place : Text}
    (hplace : g.place = .single place) (settings : List (Text × Text))
    (htakes : ∀ s ∈ settings, g.Takes s.1)
    (hvalues : ∀ s ∈ settings, s.2 ≠ endOfOptions) (word : Text) :
    g.read (settings.map setting ++ [endOfOptions, word])
      = .ok
        { values := (settings.map fun s => (s.1, some s.2)).reverse
          placed := some [word] } := by
  have hends : classify g.options [endOfOptions, word]
      = .ok [⟨endOfOptions, .separator⟩, ⟨word, .plain⟩] := by
    rw [classify, if_pos rfl]
    rfl
  have hfold := foldlM_settings hvalues {} (.single place)
  unfold Grammar.read
  rw [classify_settings htakes, hends, hplace]
  show ((settings.map settingWord ++ [_, _]).foldlM Progress.step _ >>= _)
    = _
  rw [List.foldlM_append, hfold, List.append_nil]
  rfl

end Settings

-- ======================================================== the two tools

/-- The words that check a layout are read as that task. -/
theorem read_checkWords (layout : Text) :
    read ["check", "--", layout] = .ok (.check layout) := by
  have hread := read_settings check.grammar rfl [] (fun _ h => nomatch h)
    (fun _ h => nomatch h) layout
  show read (check.word :: ([].map setting ++ [endOfOptions, layout])) = _
  rw [read_command, readCommand, hread]
  rfl

variable {name level message timestamp : Text}

end Command

end Logline
