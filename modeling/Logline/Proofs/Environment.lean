/-
What the environment makes of a configuration. Three variables are read,
each for a field of its own. Two of them may only say certain words, in
any case and with blanks around them, and the third may say anything.

Everything follows from one equation (`Config.resolve_eq`): a
configuration is resolved exactly when both of the two variables say what
they may, and then it is overridden field by field. Overriding is a plain
function of the two (`Config.overridden`), and from its fields one can
see that a variable does not reach beyond its own field, that doing it
twice is the same as doing it once, and that the level names stay.

Whether the configuration that is given stays in its place is another
matter than whether its fields change: a variable that says what the
configuration has already still puts a new one in its place.
-/
import Logline.Config
import Logline.Proofs.Chain

namespace Logline

open Calendar

-- ============================================== what a variable may say

/-- May a variable say so? Style and strictness have their words, and all
other variables may say anything. -/
def Variable.Takes : Variable → Text → Prop
  | .dateStyle, t => normalized t ∈ DateStyle.all.map DateStyle.name
  | .strictLevels, t => normalized t ∈ trueWords ++ falseWords
  | _, _ => True

instance (v : Variable) (t : Text) : Decidable (v.Takes t) :=
  match v with
  | .dateStyle | .strictLevels => decidable_of_iff _ List.contains_iff_mem
  | .unknownLevelName | .serverLayout | .logLevel => .isTrue trivial

namespace Environment

/-- Does a variable say what it may, if it says anything? -/
def Valid (env : Environment) (v : Variable) : Prop :=
  ∀ t, env.value v = some t → t ≠ [] → v.Takes t

variable {env env' : Environment} {v : Variable} {t : Text}

theorem given?_eq_some_iff :
    env.given? v = some t ↔ env.value v = some t ∧ t ≠ [] := by
  unfold given?
  rw [Option.filter_eq_some_iff, decide_eq_true_eq]

theorem given?_eq_none_iff :
    env.given? v = none ↔ env.value v = none ∨ env.value v = some [] := by
  unfold given?
  cases env.value v with
  | none => exact ⟨fun _ => .inl rfl, fun _ => rfl⟩
  | some t => simp [Option.filter_eq_none_iff]

theorem valid_iff : env.Valid v ↔ ∀ t ∈ env.given? v, v.Takes t := by
  unfold Valid
  simp only [Option.mem_def, given?_eq_some_iff, and_imp]

instance (env : Environment) (v : Variable) : Decidable (env.Valid v) :=
  decidable_of_iff _ valid_iff.symm

theorem valid_of_given?_eq_none (h : env.given? v = none) : env.Valid v := by
  rw [valid_iff, h]
  intro t ht
  cases ht

theorem valid_iff_of_given? (h : env.given? v = some t) :
    env.Valid v ↔ v.Takes t := by
  rw [valid_iff, h]
  exact ⟨fun hall => hall t rfl, fun ht s hs => Option.some.inj hs ▸ ht⟩

/-- A variable that is set says what it is set to, unless that is empty. -/
theorem given?_set_self (env : Environment) (v : Variable) (h : t ≠ []) :
    (env.set v (some t)).given? v = some t := by
  rw [given?_eq_some_iff]
  exact ⟨if_pos rfl, h⟩

theorem given?_congr (h : env'.value v = env.value v) :
    env'.given? v = env.given? v := by
  unfold given?
  rw [h]

theorem valid_congr (h : env'.value v = env.value v) :
    env'.Valid v ↔ env.Valid v := by
  unfold Valid
  rw [h]

/-- Setting a variable leaves the others alone. -/
theorem value_set_of_ne {w : Variable} (h : w ≠ v) (env : Environment)
    (value : Option Text) : (env.set v value).value w = env.value w :=
  if_neg h

theorem valid_set_of_ne {w : Variable} (h : w ≠ v) (env : Environment)
    (value : Option Text) : (env.set v value).Valid w ↔ env.Valid w :=
  valid_congr (value_set_of_ne h env value)

end Environment

-- ================================================= what is made of words

theorem ofName?_eq_none_of_not_mem {name : Text}
    (h : name ∉ DateStyle.all.map DateStyle.name) :
    DateStyle.ofName? name = none := by
  refine List.find?_eq_none.2 fun style hstyle hname => h ?_
  rw [← of_decide_eq_true hname]
  exact List.mem_map_of_mem hstyle

/-- A style is found by the words for it, and its name is the word. -/
theorem readStyle?_map_name (t : Text) :
    (readStyle? t).map DateStyle.name
      = if Variable.dateStyle.Takes t then some (normalized t) else none := by
  unfold readStyle?
  split
  · next h =>
    obtain ⟨style, -, hname⟩ := List.mem_map.1 h
    rw [← hname, DateStyle.ofName?_name]
    rfl
  · next h =>
    rw [ofName?_eq_none_of_not_mem h]
    rfl

theorem readFlag?_eq (t : Text) :
    readFlag? t
      = if Variable.strictLevels.Takes t then
          some (trueWords.contains (normalized t))
        else none := by
  have htakes : Variable.strictLevels.Takes t
      ↔ normalized t ∈ trueWords ∨ normalized t ∈ falseWords :=
    List.mem_append
  unfold readFlag?
  simp only [List.contains_eq_mem, decide_eq_true_eq, htakes]
  by_cases htrue : normalized t ∈ trueWords
  · simp only [htrue, true_or, if_true, decide_true]
  · simp only [htrue, false_or, if_false, decide_false]

theorem readStyle?_eq_none_iff (t : Text) :
    readStyle? t = none ↔ ¬ Variable.dateStyle.Takes t := by
  rw [← Option.map_eq_none_iff, readStyle?_map_name]
  split
  · next h => exact ⟨(nomatch ·), fun hnot => absurd h hnot⟩
  · next h => exact ⟨fun _ => h, fun _ => rfl⟩

theorem readFlag?_eq_none_iff (t : Text) :
    readFlag? t = none ↔ ¬ Variable.strictLevels.Takes t := by
  rw [readFlag?_eq]
  split
  · next h => exact ⟨(nomatch ·), fun hnot => absurd h hnot⟩
  · next h => exact ⟨fun _ => h, fun _ => rfl⟩

-- ============================================================ overrides

/-- What a variable is read as: nothing if it says nothing, and an error
if it says what cannot be read. -/
def readGiven {α : Type} (env : Environment) (v : Variable)
    (read? : Text → Option α) (why : ConfigError) :
    Except ConfigError (Option α) :=
  match env.given? v with
  | none => .ok none
  | some t =>
    match read? t with
    | some a => .ok (some a)
    | none => .error why

/-- A variable that is read by what it may say fails only where it is not
valid. -/
theorem readGiven_eq {α : Type} (env : Environment) {v : Variable}
    {read? : Text → Option α} (h : ∀ t, read? t = none ↔ ¬ v.Takes t)
    (why : ConfigError) :
    readGiven env v read? why
      = if env.Valid v then .ok ((env.given? v).bind read?)
        else .error why := by
  unfold readGiven
  cases hgiven : env.given? v with
  | none =>
      rw [if_pos (Environment.valid_of_given?_eq_none hgiven)]
      rfl
  | some t =>
      have hvalid := Environment.valid_iff_of_given? hgiven
      cases hread : read? t with
      | none =>
          rw [if_neg fun hv => (h t).1 hread (hvalid.1 hv)]
          simp only [hread]
      | some a =>
          have htakes : v.Takes t := Decidable.not_not.1 fun hnot =>
            nomatch hread.symm.trans ((h t).2 hnot)
          rw [if_pos (hvalid.2 htakes), Option.bind_some, hread]
          simp only [hread]

namespace Overrides

/-- The overrides of an environment whose variables say what they may. -/
def given (env : Environment) : Overrides :=
  ⟨(env.given? .dateStyle).bind readStyle?, env.given? .unknownLevelName,
    (env.given? .strictLevels).bind readFlag?⟩

/-- The two variables that must say certain words are read in the same
way, one after the other. -/
theorem ofEnvironment_eq_readGiven (env : Environment) :
    ofEnvironment env = do
      let style ← readGiven env .dateStyle readStyle? .styleVariable
      let strict ← readGiven env .strictLevels readFlag? .strictVariable
      return ⟨style, env.given? .unknownLevelName, strict⟩ := by
  unfold ofEnvironment readGiven
  cases env.given? .dateStyle with
  | none =>
      cases env.given? .strictLevels with
      | none => rfl
      | some t =>
          dsimp only
          cases readFlag? t <;> rfl
  | some s =>
      dsimp only
      cases readStyle? s with
      | none => rfl
      | some style =>
          cases env.given? .strictLevels with
          | none => rfl
          | some t =>
              dsimp only
              cases readFlag? t <;> rfl

/-- The style is looked at first. -/
theorem ofEnvironment_eq (env : Environment) :
    ofEnvironment env
      = if env.Valid .dateStyle then
          if env.Valid .strictLevels then .ok (given env)
          else .error .strictVariable
        else .error .styleVariable := by
  rw [ofEnvironment_eq_readGiven, readGiven_eq env readStyle?_eq_none_iff,
    readGiven_eq env readFlag?_eq_none_iff]
  split
  · split <;> rfl
  · rfl

/-- There are overrides exactly where both variables are valid, and they
are what the environment gives. -/
theorem ofEnvironment_eq_ok_iff {env : Environment}
    {overrides : Overrides} :
    ofEnvironment env = .ok overrides
      ↔ env.Valid .dateStyle ∧ env.Valid .strictLevels
        ∧ overrides = given env := by
  rw [ofEnvironment_eq]
  split
  · next hstyle =>
    split
    · next hstrict =>
      rw [Except.ok.injEq, eq_comm]
      exact ⟨fun h => ⟨hstyle, hstrict, h⟩, fun h => h.2.2⟩
    · next hstrict =>
      exact ⟨(nomatch ·), fun h => absurd h.2.1 hstrict⟩
  · next hstyle => exact ⟨(nomatch ·), fun h => absurd h.1 hstyle⟩

end Overrides

-- ======================================================= configurations

namespace Config

/-- The configuration in which every field that has a variable is what the
variable says, if it says anything. -/
def overridden (config : Config) (env : Environment) : Config where
  levelNames := config.levelNames
  dateStyle := (env.given? .dateStyle).elim config.dateStyle normalized
  unknownLevelName :=
    (env.given? .unknownLevelName).getD config.unknownLevelName
  strictLevels := (env.given? .strictLevels).elim config.strictLevels
    fun t => trueWords.contains (normalized t)

/-- Do two configurations differ in no field but that of a variable? -/
structure AgreesBut (v : Variable) (config config' : Config) : Prop where
  levelNames : config'.levelNames = config.levelNames
  dateStyle : v ≠ .dateStyle → config'.dateStyle = config.dateStyle
  unknownLevelName : v ≠ .unknownLevelName →
    config'.unknownLevelName = config.unknownLevelName
  strictLevels : v ≠ .strictLevels →
    config'.strictLevels = config.strictLevels

variable {config resolved : Config} {env : Environment}

/-- Applying what a valid environment gives is to put in what its
variables say. -/
theorem apply_given (hstyle : env.Valid .dateStyle)
    (hstrict : env.Valid .strictLevels) (config : Config) :
    (Overrides.given env).apply config = config.overridden env := by
  have hdateStyle : (((env.given? .dateStyle).bind readStyle?).map
      DateStyle.name).getD config.dateStyle
        = (env.given? .dateStyle).elim config.dateStyle normalized := by
    cases h : env.given? .dateStyle with
    | none => rfl
    | some t =>
        have htakes := (Environment.valid_iff_of_given? h).1 hstyle
        rw [Option.bind_some, readStyle?_map_name, if_pos htakes]
        rfl
  have hstrictLevels : ((env.given? .strictLevels).bind readFlag?).getD
      config.strictLevels = (env.given? .strictLevels).elim
        config.strictLevels fun t => trueWords.contains (normalized t) := by
    cases h : env.given? .strictLevels with
    | none => rfl
    | some t =>
        have htakes := (Environment.valid_iff_of_given? h).1 hstrict
        rw [Option.bind_some, readFlag?_eq, if_pos htakes]
        rfl
  unfold Overrides.apply Overrides.given overridden
  simp only [hdateStyle, hstrictLevels]

/-- Resolving a configuration puts in what the variables say, or fails
for the first that is not valid. -/
theorem resolve_eq (config : Config) (env : Environment) :
    config.resolve env
      = if env.Valid .dateStyle then
          if env.Valid .strictLevels then .ok (config.overridden env)
          else .error .strictVariable
        else .error .styleVariable := by
  unfold resolve
  rw [Overrides.ofEnvironment_eq]
  split
  · next hstyle =>
    split
    · next hstrict =>
      rw [← apply_given hstyle hstrict config]
      rfl
    · rfl
  · rfl

/-- It is resolved exactly where both variables are valid. -/
theorem resolve_eq_ok_iff :
    config.resolve env = .ok resolved
      ↔ env.Valid .dateStyle ∧ env.Valid .strictLevels
        ∧ resolved = config.overridden env := by
  unfold resolve
  rw [bind_eq_ok_iff]
  constructor
  · rintro ⟨overrides, h, heq⟩
    obtain ⟨hstyle, hstrict, rfl⟩ := Overrides.ofEnvironment_eq_ok_iff.1 h
    cases heq
    exact ⟨hstyle, hstrict, apply_given hstyle hstrict config⟩
  · rintro ⟨hstyle, hstrict, rfl⟩
    exact ⟨_, Overrides.ofEnvironment_eq_ok_iff.2 ⟨hstyle, hstrict, rfl⟩,
      congrArg Except.ok (apply_given hstyle hstrict config)⟩

theorem resolve_eq_error_iff {why : ConfigError} :
    config.resolve env = .error why
      ↔ (why = .styleVariable ∧ ¬ env.Valid .dateStyle)
        ∨ (why = .strictVariable ∧ env.Valid .dateStyle
          ∧ ¬ env.Valid .strictLevels) := by
  rw [resolve_eq]
  by_cases hstyle : env.Valid .dateStyle
  · by_cases hstrict : env.Valid .strictLevels
    · simp [hstyle, hstrict]
    · simp [hstyle, hstrict, eq_comm]
  · simp [hstyle, eq_comm]

theorem overridden_overridden (config : Config) (env : Environment) :
    (config.overridden env).overridden env = config.overridden env := by
  unfold overridden
  cases env.given? .dateStyle <;> cases env.given? .unknownLevelName <;>
    cases env.given? .strictLevels <;> rfl

/-- The style of a configuration counts only where the variable says
nothing. -/
theorem overridden_set_dateStyle (config : Config) (env : Environment)
    (value : Option Text) :
    config.overridden (env.set .dateStyle value)
      = { config.overridden env with
          dateStyle :=
            (value.filter (· ≠ [])).elim config.dateStyle normalized } :=
  rfl

/-- A variable does not reach beyond its field. -/
theorem overridden_set (config : Config) (env : Environment) (v : Variable)
    (value : Option Text) :
    AgreesBut v (config.overridden env)
      (config.overridden (env.set v value)) := by
  have hgiven : ∀ {w : Variable}, v ≠ w →
      (env.set v value).given? w = env.given? w := fun h =>
    Environment.given?_congr (Environment.value_set_of_ne h.symm env value)
  refine ⟨rfl, fun h => ?_, fun h => ?_, fun h => ?_⟩
  · simp only [overridden, hgiven h]
  · simp only [overridden, hgiven h]
  · simp only [overridden, hgiven h]

/-- Setting a variable to what it may say leaves a configuration that can
be resolved one that can be resolved. -/
theorem resolve_set (h : config.resolve env = .ok resolved) {v : Variable}
    {value : Option Text} (hvalid : (env.set v value).Valid v) :
    ∃ changed, config.resolve (env.set v value) = .ok changed
      ∧ AgreesBut v resolved changed := by
  obtain ⟨hstyle, hstrict, rfl⟩ := resolve_eq_ok_iff.1 h
  have hkept : ∀ {w : Variable}, env.Valid w → (env.set v value).Valid w := by
    intro w hw
    by_cases hwv : w = v
    · exact hwv ▸ hvalid
    · exact (Environment.valid_set_of_ne hwv env value).2 hw
  exact ⟨_, resolve_eq_ok_iff.2 ⟨hkept hstyle, hkept hstrict, rfl⟩,
    overridden_set config env v value⟩

-- ====================================================== the one in place

/-- The variables that have a field of a configuration. -/
def fieldVariables : List Variable :=
  [.dateStyle, .unknownLevelName, .strictLevels]

/-- No overrides leave a configuration as it is. -/
theorem apply_of_isEmpty {overrides : Overrides}
    (h : overrides.isEmpty = true) (config : Config) :
    overrides.apply config = config := by
  obtain ⟨style, unknown, strict⟩ := overrides
  cases style with
  | some style => cases h
  | none =>
      cases unknown with
      | some name => cases h
      | none =>
          cases strict with
          | some flag => cases h
          | none => rfl

theorem resolve_eq_replacement? (config : Config) (env : Environment) :
    config.resolve env = (config.replacement? env).map (·.getD config) := by
  unfold resolve replacement?
  cases Overrides.ofEnvironment env with
  | error why => rfl
  | ok overrides =>
      refine congrArg Except.ok ?_
      split
      · next hempty => exact apply_of_isEmpty hempty config
      · rfl

/-- A variable that says what can be read is read as nothing only where it
says nothing. -/
theorem bind_given?_eq_none_iff {α : Type} {v : Variable}
    {read? : Text → Option α} (h : ∀ t, read? t = none ↔ ¬ v.Takes t)
    (hvalid : env.Valid v) :
    (env.given? v).bind read? = none ↔ env.given? v = none := by
  cases hgiven : env.given? v with
  | none => exact ⟨fun _ => rfl, fun _ => rfl⟩
  | some t =>
      have htakes := (Environment.valid_iff_of_given? hgiven).1 hvalid
      rw [Option.bind_some, h]
      exact ⟨fun hnot => absurd htakes hnot, (nomatch ·)⟩

theorem isEmpty_given_iff (hstyle : env.Valid .dateStyle)
    (hstrict : env.Valid .strictLevels) :
    (Overrides.given env).isEmpty = true
      ↔ ∀ v ∈ fieldVariables, env.given? v = none := by
  unfold Overrides.isEmpty Overrides.given fieldVariables
  simp only [Bool.and_eq_true, Option.isNone_iff_eq_none,
    bind_given?_eq_none_iff readStyle?_eq_none_iff hstyle,
    bind_given?_eq_none_iff readFlag?_eq_none_iff hstrict,
    List.forall_mem_cons, List.not_mem_nil, false_imp_iff, implies_true,
    and_true, and_assoc]

/-- A configuration stays in place exactly where no variable of a field
says anything. -/
theorem replacement?_eq_none_iff :
    config.replacement? env = .ok none
      ↔ ∀ v ∈ fieldVariables, env.value v = none ∨ env.value v = some [] := by
  simp only [← Environment.given?_eq_none_iff]
  constructor
  · intro h
    obtain ⟨overrides, hoverrides, heq⟩ := bind_eq_ok_iff.1 h
    obtain ⟨hstyle, hstrict, rfl⟩ :=
      Overrides.ofEnvironment_eq_ok_iff.1 hoverrides
    rw [← isEmpty_given_iff hstyle hstrict]
    cases hempty : (Overrides.given env).isEmpty with
    | true => rfl
    | false =>
        rw [hempty] at heq
        cases heq
  · intro h
    have hvalid : ∀ v ∈ fieldVariables, env.Valid v := fun v hv =>
      Environment.valid_of_given?_eq_none (h v hv)
    have hstyle : env.Valid .dateStyle := hvalid _ (by decide)
    have hstrict : env.Valid .strictLevels := hvalid _ (by decide)
    have hempty := (isEmpty_given_iff hstyle hstrict).2 h
    have hread := Overrides.ofEnvironment_eq_ok_iff.2 ⟨hstyle, hstrict, rfl⟩
    exact bind_eq_ok_iff.2 ⟨_, hread, congrArg Except.ok (if_pos hempty)⟩

/-- What comes of a configuration under an environment. There are two
reasons to fail, one for each variable that must say certain words, and
that of the style comes first. Otherwise every field is what its variable
says, if it says anything, and what it was before if not. The
configuration itself stays in place exactly when no variable of a field
says anything. To resolve once more changes nothing, and to make one
variable say something else, or nothing, changes no field but its own. -/
theorem resolve_exact (config : Config) (env : Environment) :
    (∀ why, config.resolve env = .error why
        ↔ why = .styleVariable ∧ ¬ env.Valid .dateStyle
          ∨ why = .strictVariable ∧ env.Valid .dateStyle
            ∧ ¬ env.Valid .strictLevels)
      ∧ (∀ resolved, config.resolve env = .ok resolved
        ↔ env.Valid .dateStyle ∧ env.Valid .strictLevels
          ∧ resolved = config.overridden env)
      ∧ config.resolve env = (config.replacement? env).map (·.getD config)
      ∧ (config.replacement? env = .ok none
        ↔ ∀ v ∈ fieldVariables, env.value v = none ∨ env.value v = some [])
      ∧ ∀ resolved, config.resolve env = .ok resolved →
        resolved.levelNames = config.levelNames
          ∧ resolved.resolve env = .ok resolved
          ∧ ∀ v value, (env.set v value).Valid v →
            ∃ changed, config.resolve (env.set v value) = .ok changed
              ∧ AgreesBut v resolved changed := by
  refine ⟨fun why => resolve_eq_error_iff, fun resolved =>
    resolve_eq_ok_iff, resolve_eq_replacement? config env,
    replacement?_eq_none_iff, fun resolved h => ?_⟩
  obtain ⟨hstyle, hstrict, heq⟩ := resolve_eq_ok_iff.1 h
  refine ⟨?_, ?_, fun v value hvalid => resolve_set h hvalid⟩
  · rw [heq]
    rfl
  · rw [resolve_eq_ok_iff, heq, overridden_overridden]
    exact ⟨hstyle, hstrict, rfl⟩

/-- Blanks of other scripts and capital letters do not count, and a style
that is not known gives way. The flag can be cleared, but not be set to
any word. -/
theorem resolve_exact_blanks :
    let config : Config := { dateStyle := "iso" }
    let env := (Environment.empty.set .dateStyle
      (some "\u2003Reference ")).set .strictLevels (some "ON")
    let resolved : Config := { dateStyle := "reference", strictLevels := true }
    config.resolve env = .ok resolved
      ∧ config.replacement? env ≠ .ok none
      ∧ resolved.resolve env = .ok resolved
      ∧ (∃ changed, config.resolve (env.set .strictLevels none) = .ok changed
        ∧ AgreesBut .strictLevels resolved changed)
      ∧ config.resolve (env.set .strictLevels (some "maybe"))
        = .error .strictVariable := by
  intro config env resolved
  obtain ⟨-, hok, -, hplace, hrun⟩ := config.resolve_exact env
  have hresolved : config.resolve env = .ok resolved :=
    (hok resolved).2 ⟨by decide +kernel, by decide +kernel,
      by decide +kernel⟩
  obtain ⟨-, hagain, hframe⟩ := hrun resolved hresolved
  refine ⟨hresolved, fun h => ?_, hagain, hframe _ _ (by decide +kernel), ?_⟩
  · exact absurd (hplace.1 h .strictLevels (by decide)) (by decide)
  · obtain ⟨herror, -⟩ := config.resolve_exact
      (env.set .strictLevels (some "maybe"))
    exact (herror _).2 (.inr ⟨rfl, by decide +kernel, by decide +kernel⟩)

end Config

-- ================================================ what resolving keeps

section Resolving

variable {config resolved : Config} {env : Environment}

theorem levelNames_of_resolve (h : config.resolve env = .ok resolved) :
    resolved.levelNames = config.levelNames := by
  obtain ⟨-, -, rfl⟩ := Config.resolve_eq_ok_iff.1 h
  rfl

/-- A known date style stays known. -/
theorem exists_style_of_resolve (h : config.resolve env = .ok resolved)
    (hstyle : ∃ style, DateStyle.ofName? config.dateStyle = some style) :
    ∃ style, DateStyle.ofName? resolved.dateStyle = some style := by
  obtain ⟨hvalid, -, rfl⟩ := Config.resolve_eq_ok_iff.1 h
  unfold Config.overridden
  cases hgiven : env.given? .dateStyle with
  | none => exact hstyle
  | some t =>
      have htakes := (Environment.valid_iff_of_given? hgiven).1 hvalid
      obtain ⟨style, -, hname⟩ := List.mem_map.1 htakes
      refine ⟨style, ?_⟩
      show DateStyle.ofName? (normalized t) = _
      rw [← hname, DateStyle.ofName?_name]

end Resolving

end Logline
