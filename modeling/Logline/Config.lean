/-
Configuration of a renderer: the table of level names, the date style,
the name of a level outside the table, and whether such a level is an
error instead. The date style is kept by name, known or not; it is the
renderer that looks it up.

Three variables of the environment override their fields, each its own.
A variable that is absent or empty overrides nothing. Style and flag are
read with blanks trimmed and in any case.
-/
import Logline.Calendar.Style
import Logline.Level

namespace Logline

open Calendar

-- ======================================================== environment

/-- The variables of the environment that are read. -/
inductive Variable where
  | dateStyle
  | unknownLevelName
  | strictLevels
  | serverLayout
  | logLevel
  deriving DecidableEq, Repr

namespace Variable

/-- All variables. -/
def all : List Variable :=
  [dateStyle, unknownLevelName, strictLevels, serverLayout, logLevel]

/-- The name of a variable. -/
def name : Variable → Text
  | dateStyle => "LOG_LAYOUT_DATE_STYLE"
  | unknownLevelName => "LOG_LAYOUT_UNKNOWN_LEVEL_NAME"
  | strictLevels => "LOG_LAYOUT_STRICT_LEVELS"
  | serverLayout => "LOG_LAYOUT_SERVER_LAYOUT"
  | logLevel => "LOG_LAYOUT_LOG_LEVEL"

/-- The variable with a given name. -/
def ofName? (name : Text) : Option Variable :=
  all.find? fun v => v.name = name

end Variable

/-- Why a variable cannot be set. -/
inductive VariableError where
  /-- The name or the value has a null character. -/
  | nullCharacter
  /-- The name has an equals sign. -/
  | equalsSign
  | emptyName
  deriving DecidableEq, Repr

/-- The wording of a variable that cannot be set. -/
def VariableError.message : VariableError → Text
  | nullCharacter => "embedded null byte"
  | equalsSign => "illegal environment variable name"
  | emptyName => "[Errno 22] Invalid argument"

/-- The values of the variables that are set. -/
structure Environment where
  value : Variable → Option Text

namespace Environment

/-- The environment in which no variable is set. -/
def empty : Environment := ⟨fun _ => none⟩

/-- Sets a variable, or clears it. -/
def set (env : Environment) (v : Variable) (value : Option Text) :
    Environment :=
  ⟨fun w => if w = v then value else env.value w⟩

/-- Looks at the name and the value that a variable is to be set to.
Neither may have a null character, and a name has at least one character
and no equals sign. -/
def check (name value : Text) : Except VariableError Unit :=
  if name.contains '\x00' || value.contains '\x00' then
    .error .nullCharacter
  else if name.contains '=' then .error .equalsSign
  else if name = [] then .error .emptyName
  else .ok ()

/-- Sets or clears the variable with a name. Other variables than the
ones that are read are not kept. -/
def setNamed (env : Environment) (name : Text) (value : Option Text) :
    Except VariableError Environment := do
  if let some t := value then check name t
  match Variable.ofName? name with
  | some v => return env.set v value
  | none => return env

/-- The value of a variable, unless it is absent or empty. -/
def given? (env : Environment) (v : Variable) : Option Text :=
  (env.value v).filter (· ≠ [])

end Environment

-- ====================================================== configuration

/-- How a renderer names levels and writes dates. -/
structure Config where
  levelNames : List Text := defaultLevelNames
  dateStyle : Text := DateStyle.directives.name
  unknownLevelName : Text := "UNKNOWN"
  strictLevels : Bool := false
  deriving DecidableEq, Repr

/-- Why the environment cannot be used. -/
inductive ConfigError where
  /-- The style variable names no style. -/
  | styleVariable
  /-- The flag variable is no truth word. -/
  | strictVariable
  deriving DecidableEq, Repr

/-- The wording of an environment that cannot be used. -/
def ConfigError.message : ConfigError → Text
  | styleVariable =>
    Variable.dateStyle.name ++ " must be one of: " ++ DateStyle.choices
  | strictVariable =>
    Variable.strictLevels.name ++ " must be a boolean (true/false)"

/-- The word that a text stands for: blanks trimmed, in lower case. -/
def normalized (t : Text) : Text :=
  Text.lower (Text.trim t)

/-- The words for true. -/
def trueWords : List Text := ["1", "true", "yes", "on"]

/-- The words for false. -/
def falseWords : List Text := ["0", "false", "no", "off"]

/-- The truth value that a word stands for. -/
def readFlag? (t : Text) : Option Bool :=
  if trueWords.contains (normalized t) then some true
  else if falseWords.contains (normalized t) then some false
  else none

/-- The style that a word stands for. -/
def readStyle? (t : Text) : Option DateStyle :=
  DateStyle.ofName? (normalized t)

/-- What the environment puts in place of a configuration's fields. -/
structure Overrides where
  style : Option DateStyle
  unknownLevelName : Option Text
  strictLevels : Option Bool
  deriving DecidableEq, Repr

namespace Overrides

/-- The overrides of an environment. The style is looked at first. -/
def ofEnvironment (env : Environment) : Except ConfigError Overrides := do
  let style ← match env.given? .dateStyle with
    | none => pure none
    | some t =>
      match readStyle? t with
      | some style => pure (some style)
      | none => throw .styleVariable
  let strict ← match env.given? .strictLevels with
    | none => pure none
    | some t =>
      match readFlag? t with
      | some flag => pure (some flag)
      | none => throw .strictVariable
  return ⟨style, env.given? .unknownLevelName, strict⟩

/-- Is there nothing to override? -/
def isEmpty (o : Overrides) : Bool :=
  o.style.isNone && o.unknownLevelName.isNone && o.strictLevels.isNone

/-- Puts the overrides in place. -/
def apply (o : Overrides) (config : Config) : Config :=
  { config with
    dateStyle := (o.style.map DateStyle.name).getD config.dateStyle
    unknownLevelName := o.unknownLevelName.getD config.unknownLevelName
    strictLevels := o.strictLevels.getD config.strictLevels }

end Overrides

/-- The configuration with the environment's overrides. -/
def Config.resolve (config : Config) (env : Environment) :
    Except ConfigError Config := do
  let overrides ← Overrides.ofEnvironment env
  return overrides.apply config

/-- The configuration that the environment puts in the place of the one
that is given; none if it leaves that one in its place. -/
def Config.replacement? (config : Config) (env : Environment) :
    Except ConfigError (Option Config) := do
  let overrides ← Overrides.ofEnvironment env
  return if overrides.isEmpty then none else some (overrides.apply config)

end Logline
