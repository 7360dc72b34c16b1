import Schemata.NameMap
import Schemata.Spec.FieldType
import Schemata.Spec.Literal
import Schemata.Spec.Relation

/-!
# Specifications

A specification declares models, enumerations, entities and structures. A model becomes a table, an
enumeration a table of its entries, an entity a view across models; structures share one table.

## Main definitions

* `Model`: fields, identifiers and relations.
* `Enumeration`: named literals of one type.
* `Entity`: fields that are read along paths through models.
* `Structure`: a record that is kept as a document.
* `Kind`: which of the four something is.
-/

namespace Schemata.Spec

/-- The attribute of a field that must have a value. -/
def mandatory : String := "mandatory"

/-- The name of the identifier that every model has to declare. -/
def primary : String := "primary"

/-- A field of a model or a structure. -/
structure Field where
  type : FieldType
  attributes : List String := []
  deriving DecidableEq, Repr

/-- Whether a field must have a value. -/
def Field.isMandatory (f : Field) : Bool := f.attributes.contains mandatory

/-- A model, which is kept in a table. -/
structure Model where
  name : String := ""
  fields : NameMap Field := {}
  /-- Fields that together identify an instance, in order. -/
  identifiers : NameMap (List String) := {}
  related : NameMap Relation := {}
  deriving DecidableEq

/-- The fields of the primary identifier. -/
def Model.primary? (m : Model) : Option (List String) := m.identifiers.get? primary

/-- A closed set of named literals. -/
structure Enumeration where
  name : String := ""
  type : LiteralType
  entries : NameMap Literal := {}
  deriving DecidableEq

/-- A field of an entity, which is read along a path such as `Person.ContactInfo.Email`. -/
structure EntityField where
  path : String
  attributes : List String := []
  deriving DecidableEq, Repr

/-- The segments of a path, which dots separate. -/
def EntityField.segments (f : EntityField) : List String :=
  (f.path.toList.splitOn '.').map String.ofList

/-- A projection across models, which becomes a view. -/
structure Entity where
  name : String := ""
  fields : NameMap EntityField := {}
  deriving DecidableEq

/-- A record that is kept as a document. -/
structure Structure where
  name : String := ""
  fields : NameMap Field := {}
  deriving DecidableEq

/-- The kinds of things that a specification declares; a structure is a record. -/
inductive Kind where
  | model
  | enumeration
  | entity
  | record
  deriving DecidableEq, Repr

/-- The name of a kind in messages. -/
def Kind.name : Kind → String
  | .model => "model"
  | .enumeration => "enum"
  | .entity => "entity"
  | .record => "structure"

end Schemata.Spec
