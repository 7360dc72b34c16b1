import Schemata.Settings.Basic
import Schemata.Spec.Registry
import Schemata.Sql.ColumnType
import Schemata.Sql.Order

/-!
# Errors of a compilation

Everything that can keep a specification from becoming a database schema, each cause with what has
to be said about it. Where a unit fails inside a whole compilation, the cause is put inside the unit
that failed.

## Main definitions

* `CompileError`, `CompileError.message`.
* `CompileError.cause`, `CompileError.units`: an error without its units, and the units.
* `CompileError.category`: where the remedy lies.
-/

namespace Schemata.Lowering

open Spec Sql

/-- Why an object could not be written. -/
inductive WriteError where
  /-- The system failed, with a reason of its own. -/
  | io (reason : String)
  /-- A writer refused the object. -/
  | format (artifact reason : String)
  deriving DecidableEq, Repr

/-- The text of a failure to write. -/
def WriteError.message : WriteError → String
  | io reason => "I/O error: " ++ reason
  | format artifact reason => "Failed to write " ++ artifact ++ ": " ++ reason

/-- Why a specification cannot be compiled. -/
inductive CompileError where
  | settings (e : Settings.SettingsError)
  | emptySchema (kind : Kind)
  | missingStructureWriter
  | emptyModelName
  | noFields (model : String)
  | noIdentifiers (model : String)
  | noPrimary (model : String)
  | unknownIdentifierField (model identifier field : String)
  /-- A model is referred to, and no single field identifies it. -/
  | compositePrimary (model : String) (count : Nat)
  | unsupportedType (model field : String) (type : FieldType) (map : TypeMap)
  | missingTarget (model relation target : String)
  | duplicateColumn (table column : String)
  | emptyEnumerationName
  | noEntries (enumeration : String)
  | entryType (enumeration entry : String) (expected : LiteralType)
  | emptyEntityName
  | noEntityFields (entity : String)
  | invalidPath (entity field path : String)
  | missingRelation (entity field model segment : String)
  | pluralHop (entity field model relation : String) (kind : RelationKind)
  | missingField (entity field model segment : String)
  | rootMismatch (entity expected found : String)
  | notFound (e : NotFound)
  | order (e : OrderError)
  | write (e : WriteError)
  /-- Raised from outside. -/
  | hook (message : String)
  /-- An error inside a unit. -/
  | inUnit (kind : Kind) (name : String) (error : CompileError)
  deriving DecidableEq, Repr

namespace CompileError

/-- The text of an error. -/
def message : CompileError → String
  | settings e => "Configuration error: " ++ e.message
  | emptySchema kind => "Schema is empty for " ++ kind.name ++ " compilation"
  | missingStructureWriter =>
    "Structure persistence is enabled but no structure writer is configured"
  | emptyModelName => "Model has no name"
  | noFields model => "Model " ++ model ++ " has no fields"
  | noIdentifiers model => "Model " ++ model ++ " has no identifiers"
  | noPrimary model => "Model " ++ model ++ " has no primary identifier"
  | unknownIdentifierField model identifier field =>
    "Identifier " ++ identifier ++ " of model " ++ model ++ " references unknown field " ++ field
  | compositePrimary model count =>
    "Model " ++ model ++ " is referenced but its primary identifier has " ++ toString count
      ++ " fields"
  | unsupportedType model field type map =>
    "Field " ++ field ++ " of model " ++ model ++ " has type " ++ type.name ++ ", which the "
      ++ map.name ++ " type map does not support"
  | missingTarget model relation target =>
    "Relation " ++ relation ++ " of model " ++ model ++ " targets unknown model " ++ target
  | duplicateColumn table column => "Column " ++ column ++ " appears twice in table " ++ table
  | emptyEnumerationName => "Enum has no name"
  | noEntries enumeration => "Enum " ++ enumeration ++ " has no entries"
  | entryType enumeration entry expected =>
    "Entry " ++ entry ++ " of enum " ++ enumeration ++ " is not a " ++ expected.name ++ " literal"
  | emptyEntityName => "Entity has no name"
  | noEntityFields entity => "Entity " ++ entity ++ " has no fields"
  | invalidPath entity field path =>
    "Field " ++ field ++ " of entity " ++ entity ++ " has invalid path '" ++ path ++ "'"
  | missingRelation entity field model segment =>
    "Field " ++ field ++ " of entity " ++ entity ++ ": model " ++ model ++ " has no relation "
      ++ segment
  | pluralHop entity field model relation kind =>
    "Field " ++ field ++ " of entity " ++ entity ++ ": relation " ++ relation ++ " of model "
      ++ model ++ " is " ++ kind.name ++ ", only one-to-one relations can be traversed"
  | missingField entity field model segment =>
    "Field " ++ field ++ " of entity " ++ entity ++ ": model " ++ model ++ " has no field "
      ++ segment
  | rootMismatch entity expected found =>
    "Entity " ++ entity ++ " mixes root models " ++ expected ++ " and " ++ found
  | notFound e => e.message
  | order e => e.message
  | write e => e.message
  | hook text => text
  | inUnit kind name error =>
    "Failed to compile " ++ kind.name ++ " " ++ name ++ ": " ++ error.message

/-- An error without the units around it. -/
def cause : CompileError → CompileError
  | inUnit _ _ error => error.cause
  | error => error

/-- The units around an error, the outermost first. -/
def units : CompileError → List (Kind × String)
  | inUnit kind name error => (kind, name) :: error.units
  | _ => []

end CompileError

/-- Where the remedy for an error lies. -/
inductive Category where
  | configuration
  | validation
  | graph
  | write
  deriving DecidableEq, Repr

/-- The category of an error, which is that of its cause. -/
def CompileError.category (e : CompileError) : Category :=
  match e.cause with
  | .settings _ | .emptySchema _ | .missingStructureWriter => .configuration
  | .order _ => .graph
  | .write _ => .write
  | _ => .validation

/-- A schema must not be blank. -/
def requireSchema (schema : String) (kind : Kind) : Except CompileError Unit :=
  if Text.isBlank schema then .error (.emptySchema kind) else .ok ()

end Schemata.Lowering
