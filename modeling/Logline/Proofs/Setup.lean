/-
The severity of the server's log. The environment asks for it by name: the
upper case of what the variable says is looked up, and where nothing has
that name the usual severity counts (`LogSetting.Asks`).

But not everything that has a name there is a severity. The table has two
settings of another kind, and a name that stands for one of them is found,
so the usual severity does not take its place, and the set-up refuses it.
These two names are the only ones. With the other variables in order the
log is set up with the severity that is asked for exactly when the variable
does not say one of them in any case (`setUp_asks_iff`).
-/
import Logline.Proofs.Formatter.Severities
import Logline.Server

namespace Logline

open Calendar Layout

-- ======================================================= what is asked for

namespace LogSetting

/-- The severities by their names. -/
def severityNames : List (Text × Int) := [
  ("CRITICAL", 50), ("FATAL", 50), ("ERROR", 40), ("WARNING", 30),
  ("WARN", 30), ("INFO", 20), ("DEBUG", 10), ("NOTSET", 0)]

/-- Is it the severity that the variable asks for? It is the one whose
name the variable says in any case, or else the usual one. -/
inductive Asks : Option Text → Int → Prop
  | named {name : Text} {n : Int}
      (h : (Text.upper name, n) ∈ severityNames) : Asks (some name) n
  | unnamed {name : Text}
      (h : ∀ n, (Text.upper name, n) ∉ severityNames) :
      Asks (some name) info
  | unset : Asks none info

/-- Only one severity is asked for. -/
theorem Asks.unique {value : Option Text} {n m : Int} (h : Asks value n)
    (h' : Asks value m) : n = m := by
  have hnames : ∀ a ∈ severityNames, ∀ b ∈ severityNames,
      a.1 = b.1 → a.2 = b.2 := by decide
  cases h with
  | named hn =>
      cases h' with
      | named hm => exact hnames _ hn _ hm rfl
      | unnamed hnone => exact absurd hn (hnone n)
  | unnamed hnone =>
      cases h' with
      | named hm => exact absurd hm (hnone m)
      | unnamed => rfl
  | unset =>
      cases h'
      rfl

/-- The names of settings that are no severities. -/
def otherNames : List Text := ["BASIC_FORMAT", "_STYLES"]

-- ================================================================ the table

theorem lookup_known_of_mem {entry : Text × Int}
    (h : entry ∈ severityNames) :
    known.lookup entry.1 = some (severity entry.2) := by
  revert entry
  decide

theorem map_fst_known :
    known.map Prod.fst = severityNames.map Prod.fst ++ otherNames := by
  decide

theorem lookup_known_of_not_mem {t : Text}
    (hsevere : ∀ n, (t, n) ∉ severityNames) (hother : t ∉ otherNames) :
    known.lookup t = none := by
  refine List.lookup_eq_none_iff.2 fun entry hentry => ?_
  have hname : entry.1 ∈ severityNames.map Prod.fst ++ otherNames :=
    map_fst_known ▸ List.mem_map_of_mem hentry
  rw [bne_iff_ne]
  rintro rfl
  rcases List.mem_append.1 hname with hname | hname
  · obtain ⟨⟨_, n⟩, hmem, rfl⟩ := List.mem_map.1 hname
    exact hsevere n hmem
  · exact hother hname

/-- A name that is none of the other settings' stands for the severity that
is asked for. -/
theorem asks_of_not_mem {name : Text} (h : Text.upper name ∉ otherNames) :
    ∃ n, ofName name = severity n ∧ Asks (some name) n := by
  unfold ofName
  by_cases hsevere : ∃ n, (Text.upper name, n) ∈ severityNames
  · obtain ⟨n, hmem⟩ := hsevere
    rw [lookup_known_of_mem hmem]
    exact ⟨n, rfl, .named hmem⟩
  · have hnone := not_exists.1 hsevere
    rw [lookup_known_of_not_mem hnone h]
    exact ⟨info, rfl, .unnamed hnone⟩

/-- What the variable stands for is a severity that it asks for, unless it
says the name of another setting. -/
theorem asks_ofEnvironment {env : Environment}
    (h : ∀ name ∈ env.value .logLevel, Text.upper name ∉ otherNames) :
    ∃ n, ofEnvironment env = severity n ∧ Asks (env.value .logLevel) n := by
  unfold ofEnvironment
  cases hvalue : env.value .logLevel with
  | none => exact ⟨info, rfl, .unset⟩
  | some name => exact asks_of_not_mem (h name hvalue)

end LogSetting

-- ============================================================== the set-up

namespace Formatter

variable {env : Environment}

/-- The style is known once the variable says what it may. -/
theorem exists_style_of_valid (h : env.Valid .dateStyle) :
    ∃ style, DateStyle.ofName? (Config.overridden {} env).dateStyle
      = some style := by
  show ∃ style, DateStyle.ofName? ((env.given? .dateStyle).elim _ _) = _
  cases hgiven : env.given? .dateStyle with
  | none => exact ⟨.directives, rfl⟩
  | some t =>
      have htakes := (Environment.valid_iff_of_given? hgiven).1 h
      obtain ⟨style, -, hname⟩ := List.mem_map.1 htakes
      refine ⟨style, ?_⟩
      show DateStyle.ofName? (normalized t) = _
      rw [← hname, DateStyle.ofName?_name]

/-- The environment can have its formatter exactly when the two variables
that must say certain words do, and the layout is one. -/
theorem exists_ofEnvironment_iff :
    (∃ f, ofEnvironment env = .ok f)
      ↔ env.Valid .dateStyle ∧ env.Valid .strictLevels
        ∧ ∃ template, compile
          ((env.given? .serverLayout).getD defaultLayout) = .ok template := by
  constructor
  · rintro ⟨f, h⟩
    obtain ⟨hstyle, hstrict, hlayout, -⟩ := ofEnvironment_eq_ok_iff.1 h
    exact ⟨hstyle, hstrict, f.template, hlayout⟩
  · rintro ⟨hstyle, hstrict, template, hlayout⟩
    obtain ⟨style, hknown⟩ := exists_style_of_valid hstyle
    exact ⟨⟨template, ⟨_, style, hknown⟩⟩,
      ofEnvironment_eq_ok_iff.2 ⟨hstyle, hstrict, hlayout, rfl⟩⟩

end Formatter

namespace Server

variable {env : Environment} {f : Formatter} {name : Text}

/-- Once there is a formatter the setting decides. -/
theorem setUp_of_formatter (h : Formatter.ofEnvironment env = .ok f) :
    setUp env = match LogSetting.ofEnvironment env with
      | .severity n => .ok ⟨f, n⟩
      | .text name => .error (.unknownSeverity name)
      | .other shown => .error (.notSeverity shown) := by
  unfold setUp
  rw [h]
  cases LogSetting.ofEnvironment env <;> rfl

theorem ofEnvironment_of_upper (hvalue : env.value .logLevel = some name)
    {t : Text} (hname : Text.upper name = t) :
    LogSetting.ofEnvironment env
      = (LogSetting.known.lookup t).getD (.severity LogSetting.info) := by
  unfold LogSetting.ofEnvironment LogSetting.ofName
  rw [hvalue]
  dsimp only
  rw [hname]

theorem setUp_of_basicFormat (h : Formatter.ofEnvironment env = .ok f)
    (hvalue : env.value .logLevel = some name)
    (hname : Text.upper name = "BASIC_FORMAT") :
    setUp env
      = .error (.unknownSeverity "%(levelname)s:%(name)s:%(message)s") := by
  rw [setUp_of_formatter h, ofEnvironment_of_upper hvalue hname]
  rfl

theorem setUp_of_styles (h : Formatter.ofEnvironment env = .ok f)
    (hvalue : env.value .logLevel = some name)
    (hname : Text.upper name = "_STYLES") :
    ∃ shown, setUp env = .error (.notSeverity shown) := by
  rw [setUp_of_formatter h, ofEnvironment_of_upper hvalue hname]
  exact ⟨_, rfl⟩

/-- With the other variables in order, the log is set up with the severity
that is asked for exactly when the variable does not say the name of
another setting. One of these names is taken for an unknown severity, and
the other for what is neither a number nor a name. -/
theorem setUp_asks_iff {env : Environment} (hstyle : env.Valid .dateStyle)
    (hstrict : env.Valid .strictLevels)
    (hlayout : ∃ template, Layout.compile
      ((env.given? .serverLayout).getD defaultLayout) = .ok template) :
    ((∃ s, setUp env = .ok s
          ∧ LogSetting.Asks (env.value .logLevel) s.leastSeverity)
        ↔ ∀ name ∈ env.value .logLevel,
          Text.upper name ∉ LogSetting.otherNames)
      ∧ ∀ name ∈ env.value .logLevel,
        (Text.upper name = "BASIC_FORMAT" → setUp env
          = .error (.unknownSeverity "%(levelname)s:%(name)s:%(message)s"))
        ∧ (Text.upper name = "_STYLES" →
          ∃ shown, setUp env = .error (.notSeverity shown)) := by
  obtain ⟨f, hf⟩ :=
    Formatter.exists_ofEnvironment_iff.2 ⟨hstyle, hstrict, hlayout⟩
  refine ⟨⟨?_, fun hnames => ?_⟩, fun name hvalue =>
    ⟨setUp_of_basicFormat hf hvalue, setUp_of_styles hf hvalue⟩⟩
  · rintro ⟨s, hs, -⟩ name hvalue hname
    rcases List.mem_pair.1 hname with hname | hname
    · rw [setUp_of_basicFormat hf hvalue hname] at hs
      cases hs
    · obtain ⟨shown, herror⟩ := setUp_of_styles hf hvalue hname
      rw [herror] at hs
      cases hs
  · obtain ⟨n, hsetting, hasks⟩ := LogSetting.asks_ofEnvironment hnames
    refine ⟨⟨f, n⟩, ?_, hasks⟩
    rw [setUp_of_formatter hf, hsetting]

/-- A severity is asked for in any case that capitals take away: here its
name has two dotless letters. -/
theorem setUp_asks_iff_dotless :
    let env := (Environment.empty.set .serverLayout (some "%p %m")).set
      .logLevel (some "crıtıcal")
    env.Valid .dateStyle ∧ env.Valid .strictLevels
      ∧ ∃ s, setUp env = .ok s
        ∧ LogSetting.Asks (some "crıtıcal") s.leastSeverity
        ∧ s.leastSeverity = 50 := by
  intro env
  have hstyle : env.Valid .dateStyle := by decide
  have hstrict : env.Valid .strictLevels := by decide
  have hlayout : ∃ template, Layout.compile
      ((env.given? .serverLayout).getD defaultLayout) = .ok template :=
    isOk_iff.1 (by decide +kernel)
  have hupper : Text.upper "crıtıcal" = "CRITICAL" := by decide +kernel
  obtain ⟨s, hs, hasks⟩ :=
    (setUp_asks_iff hstyle hstrict hlayout).1.2 fun name hvalue => by
      cases hvalue
      rw [hupper]
      decide
  refine ⟨hstyle, hstrict, s, hs, hasks, hasks.unique (.named ?_)⟩
  rw [hupper]
  decide

/-- The name of the usual format of lines is found, and it is no severity,
so the usual one does not take its place. -/
theorem not_setUp_asks :
    ¬ ∀ env : Environment, env.Valid .dateStyle → env.Valid .strictLevels →
      (∃ template, Layout.compile
        ((env.given? .serverLayout).getD defaultLayout) = .ok template) →
      ∃ s, setUp env = .ok s
        ∧ LogSetting.Asks (env.value .logLevel) s.leastSeverity := by
  intro hall
  let env := Environment.empty.set .logLevel (some "basic_format")
  obtain ⟨s, hs, -⟩ := hall env (by decide) (by decide)
    (isOk_iff.1 (by decide +kernel))
  have herror : (setUp env).isOk = false := by decide +kernel
  rw [hs] at herror
  cases herror

end Server

end Logline
