import Schemata.Document.Decode
import Schemata.Document.Toml.Reader
import Schemata.Settings.Template

/-!
# Settings

How each kind of specification is turned into database objects: the schema that holds them, the
width of counted keys, the suffix of views, and whether structures are kept.

## Main definitions

* `Settings`, with a section for each kind.
* `Settings.resolve`: variables in schema names are put in.
* `Settings.check`: every section names a schema.
-/

namespace Schemata

open Document

namespace Settings

/-- The schema where none is named. -/
def defaultSchema : String := "public"

/-- The suffix of views where none is given. -/
def defaultSuffix : String := "_entities"

/-- How models become tables. -/
structure ModelSettings where
  schema : String := defaultSchema
  /-- Whether counted keys are wide. -/
  wideKeys : Bool := false
  deriving DecidableEq, Repr

/-- How enumerations become tables. -/
structure EnumerationSettings where
  schema : String := defaultSchema
  deriving DecidableEq, Repr

/-- How entities become views. -/
structure EntitySettings where
  schema : String := defaultSchema
  /-- What follows the plural of the entity in the name of its view. -/
  suffix : String := defaultSuffix
  /-- How the models that views read became tables. -/
  models : ModelSettings := {}
  deriving DecidableEq, Repr

/-- How structures are kept. -/
structure StructureSettings where
  schema : String := defaultSchema
  /-- Whether there is a table of structures. -/
  persistent : Bool := false
  /-- Whether counted keys are wide. -/
  wideKeys : Bool := false
  deriving DecidableEq, Repr

/-- The sections that name a schema. -/
inductive Section where
  | models
  | enumerations
  | entities
  | structures
  deriving DecidableEq, Repr

/-- The name of a section. -/
def Section.name : Section → String
  | .models => "models"
  | .enumerations => "enums"
  | .entities => "entities"
  | .structures => "structures"

/-- Why settings cannot be used. -/
inductive SettingsError where
  /-- There is no file where one is asked for. -/
  | fileNotFound (path : String)
  /-- A file cannot be read. -/
  | unreadable
  /-- A text is not a document of settings. -/
  | malformed
  /-- A variable is not set. -/
  | missingVariable (name : String)
  /-- A section does not name a schema. -/
  | emptySchema (part : Section)
  deriving DecidableEq, Repr

/-- The text of an error. -/
def SettingsError.message : SettingsError → String
  | .fileNotFound path => "Config file not found: " ++ path
  | .unreadable => "Failed to read config file: "
  | .malformed => "Failed to parse config file: "
  | .missingVariable name => "Missing environment variable: " ++ name
  | .emptySchema part => "Schema is empty for [" ++ part.name ++ "]"

end Settings

/-- The settings of a compilation. -/
structure Settings where
  models : Settings.ModelSettings := {}
  enumerations : Settings.EnumerationSettings := {}
  entities : Settings.EntitySettings := {}
  structures : Settings.StructureSettings := {}
  deriving DecidableEq, Repr

namespace Settings

/-- The schema of each section. -/
def schemas (s : Settings) : List (Section × String) :=
  [(.models, s.models.schema), (.enumerations, s.enumerations.schema),
    (.entities, s.entities.schema), (.structures, s.structures.schema)]

/-- The variables that schema names refer to. -/
def schemaVariables (s : Settings) : List String := s.schemas.flatMap fun e => references e.2

/-- Settings whose entities read the models as they are set. -/
def linked (s : Settings) : Settings :=
  { s with entities := { s.entities with models := s.models } }

/-- The expansion of a schema name. -/
def expandSchema (env : Environment) (schema : String) : Except SettingsError String :=
  (expand env schema).mapError .missingVariable

/-- Put in the variables of schema names. -/
def resolve (env : Environment) (s : Settings) : Except SettingsError Settings := do
  let models ← expandSchema env s.models.schema
  let enumerations ← expandSchema env s.enumerations.schema
  let entities ← expandSchema env s.entities.schema
  let structures ← expandSchema env s.structures.schema
  return linked { models := { s.models with schema := models }
                  enumerations := { s.enumerations with schema := enumerations }
                  entities := { s.entities with schema := entities }
                  structures := { s.structures with schema := structures } }

/-- Every section names a schema that is not blank; the first that does not is reported. -/
def check (s : Settings) : Except SettingsError Unit :=
  match s.schemas.find? fun e => Text.isBlank e.2 with
  | some (part, _) => .error (.emptySchema part)
  | none => .ok ()

/-! ## Settings in documents -/

/-- The section of models. -/
def modelSettings? (d : Dialect) (v : Value) : Option ModelSettings := do
  match ← d.fields? ["schema", "use_bigserial"] v with
  | [schema, wide] =>
    return { schema := ← withDefault defaultSchema text? schema
             wideKeys := ← withDefault false bool? wide }
  | _ => none

/-- The section of enumerations. -/
def enumerationSettings? (d : Dialect) (v : Value) : Option EnumerationSettings := do
  match ← d.fields? ["schema"] v with
  | [schema] => return { schema := ← withDefault defaultSchema text? schema }
  | _ => none

/-- The section of entities. -/
def entitySettings? (d : Dialect) (v : Value) : Option EntitySettings := do
  match ← d.fields? ["schema", "view_name_suffix"] v with
  | [schema, suffix] =>
    return { schema := ← withDefault defaultSchema text? schema
             suffix := ← withDefault defaultSuffix text? suffix }
  | _ => none

/-- The section of structures. -/
def structureSettings? (d : Dialect) (v : Value) : Option StructureSettings := do
  match ← d.fields? ["schema", "enable_persistence", "use_bigserial"] v with
  | [schema, persistent, wide] =>
    return { schema := ← withDefault defaultSchema text? schema
             persistent := ← withDefault false bool? persistent
             wideKeys := ← withDefault false bool? wide }
  | _ => none

/-- Settings out of a document. -/
def decode? (d : Dialect) (v : Value) : Option Settings := do
  match ← d.fields? ["models", "enums", "entities", "structures"] v with
  | [models, enumerations, entities, structures] =>
    return { models := ← withDefault {} (modelSettings? d) models
             enumerations := ← withDefault {} (enumerationSettings? d) enumerations
             entities := ← withDefault {} (entitySettings? d) entities
             structures := ← withDefault {} (structureSettings? d) structures }
  | _ => none

/-- Settings out of a text in TOML. -/
def ofText (text : String) : Except SettingsError Settings :=
  match (Toml.read? text).bind (decode? .toml) with
  | some s => .ok s.linked
  | none => .error .malformed

end Settings

end Schemata
