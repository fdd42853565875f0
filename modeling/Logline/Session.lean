/-
Sessions. A session keeps templates and renderers under ids, with an
environment of its own. An id can be given again: what it stood for is
then replaced. An operation that fails leaves everything as it was.

Whatever is kept is used as it was made. The environment is looked at
only when a renderer is built, and only if it is asked to be.
-/
import Logline.Calendar.Parts
import Logline.Layout.Scanner
import Logline.Renderer

namespace Logline

open Calendar Layout

/-- Templates and renderers under ids, the latest first. -/
structure Session where
  environment : Environment := .empty
  templates : List (Text × Template) := []
  renderers : List (Text × Renderer) := []

namespace Session

/-- What a session can be asked to do. -/
inductive Operation where
  | setVariable (name : Text) (value : Option Text)
  | compile (id layout : Text)
  /-- Builds a renderer, with the environment's overrides if `resolve`. -/
  | build (id : Text) (config : Config) (resolve : Bool)
  /-- Renders an event, if its timestamp is one. -/
  | render (renderer template : Text) (event : Except PartError Event)
  | levelName (renderer : Text) (level : Ordinal)
  | template (id : Text)

/-- What a session answers. -/
inductive Answer where
  | done
  /-- The number of pieces, and the other ids of equal templates. -/
  | compiled (count : Nat) (equal : List Text)
  | built (config : Config)
  | text (t : Text)
  | template (t : Template)
  deriving DecidableEq, Repr

/-- Why an operation fails. -/
inductive Error where
  | unknownId (id : Text)
  | badVariable (why : VariableError)
  | badLayout (why : Fault)
  | environment (why : ConfigError)
  | badEvent (why : PartError)
  | badLine (why : RenderError)
  deriving DecidableEq, Repr

/-- The wording of a failed operation. -/
def Error.message : Error → Text
  | unknownId id => Text.quoted id
  | badVariable why => why.message
  | badLayout why => why.message
  | environment why => why.message
  | badEvent why => why.message
  | badLine why => why.message

/-- The entry of an id. -/
def lookUp {α : Type} (id : Text) (entries : List (Text × α)) :
    Except Error α :=
  match entries.lookup id with
  | some entry => .ok entry
  | none => .error (.unknownId id)

/-- Puts an entry in the place of the one with its id. -/
def put {α : Type} (id : Text) (entry : α) (entries : List (Text × α)) :
    List (Text × α) :=
  (id, entry) :: entries.filter (·.1 ≠ id)

/-- The ids of the templates that equal the one of an id, in order. -/
def equalIds (id : Text) (template : Template)
    (templates : List (Text × Template)) : List Text :=
  ((templates.filter fun entry => entry.1 ≠ id && entry.2 = template).map
    (·.1)).mergeSort Text.notAfter

/-- The configuration that a renderer is built from. -/
def configFor (s : Session) (config : Config) (resolve : Bool) :
    Except Error Config :=
  if resolve then (config.resolve s.environment).mapError .environment
  else .ok config

/-- Does one operation. -/
def perform (s : Session) : Operation → Except Error (Answer × Session)
  | .setVariable name value => do
    let environment ←
      (s.environment.setNamed name value).mapError .badVariable
    return (.done, { s with environment := environment })
  | .compile id layout => do
    let template ← (Layout.compile layout).mapError .badLayout
    let templates := put id template s.templates
    return (.compiled template.pieces.length (equalIds id template templates),
      { s with templates := templates })
  | .build id config resolve => do
    let config ← s.configFor config resolve
    let renderer ← (Renderer.ofConfig config).mapError .badLine
    return (.built config,
      { s with renderers := put id renderer s.renderers })
  | .render rendererId templateId event => do
    let renderer ← lookUp rendererId s.renderers
    let event ← event.mapError .badEvent
    let template ← lookUp templateId s.templates
    let line ← (renderer.render event template).mapError .badLine
    return (.text line, s)
  | .levelName rendererId level => do
    let renderer ← lookUp rendererId s.renderers
    let name ← (renderer.levelName level).mapError .badLine
    return (.text name, s)
  | .template id => do
    let template ← lookUp id s.templates
    return (.template template, s)

/-- Does the operations one after another; one that fails changes
nothing. -/
def run (s : Session) : List Operation → List (Except Error Answer)
  | [] => []
  | operation :: rest =>
    match s.perform operation with
    | .ok (answer, s) => .ok answer :: run s rest
    | .error why => .error why :: run s rest

end Session

end Logline
