import Schemata.Document.Decode
import Schemata.Document.Toml.Reader
import Schemata.Spec.Registry

/-!
# Decoding specifications

Models, enumerations, entities and structures out of document values, and registries out of whole
documents. In a document the parts of a specification are named by the entries that hold them, and
a relation without a target leads to the model that its own entry names.
-/

namespace Schemata.Spec

open Document Decimal

/-- A literal. An integer beyond sixty-four signed bits counts as a float while it fits sixty-four
unsigned ones. -/
def literal? : Value → Option Literal
  | .int n =>
    if -Int.pow 2 63 ≤ n && n < Int.pow 2 63 then some (.integer n)
    else if 0 ≤ n && n < Int.pow 2 64 then some (.float (Double.ofInt n))
    else none
  | .float x => some (.float x)
  | .text s => some (.string s)
  | _ => none

/-- A field type. -/
def fieldType? (d : Dialect) : Value → Option FieldType := d.alternative? FieldType.ofName?

/-- A field. -/
def field? (d : Dialect) (v : Value) : Option Field := do
  match ← d.fields? ["type", "attributes"] v with
  | [type, attributes] =>
    return { type := ← required (fieldType? d) type
             attributes := ← withDefault [] (list? text?) attributes }
  | _ => none

/-- A relation. -/
def relation? (d : Dialect) (v : Value) : Option Relation := do
  match ← d.fields? ["type", "target", "alias"] v with
  | [kind, target, actual] =>
    return { kind := ← required (fun k => (text? k).bind RelationKind.ofName?) kind
             target := ← withDefault "" text? target
             actual := ← withDefault none (nullable? text?) actual }
  | _ => none

/-- A model. -/
def model? (d : Dialect) (v : Value) : Option Model := do
  match ← d.fields? ["name", "fields", "identifiers", "related"] v with
  | [name, fields, identifiers, related] =>
    return { name := ← withDefault "" text? name
             fields := ← withDefault {} (nameMap? (field? d)) fields
             identifiers := ← withDefault {} (nameMap? (list? text?)) identifiers
             related := ← withDefault {} (nameMap? (relation? d)) related }
  | _ => none

/-- An enumeration. -/
def enumeration? (d : Dialect) (v : Value) : Option Enumeration := do
  match ← d.fields? ["name", "type", "entries"] v with
  | [name, type, entries] =>
    return { name := ← withDefault "" text? name
             type := ← required (d.alternative? LiteralType.ofName?) type
             entries := ← withDefault {} (nameMap? literal?) entries }
  | _ => none

/-- A field of an entity. -/
def entityField? (d : Dialect) (v : Value) : Option EntityField := do
  match ← d.fields? ["type", "attributes"] v with
  | [path, attributes] =>
    return { path := ← required text? path
             attributes := ← withDefault [] (list? text?) attributes }
  | _ => none

/-- An entity. -/
def entity? (d : Dialect) (v : Value) : Option Entity := do
  match ← d.fields? ["name", "fields"] v with
  | [name, fields] =>
    return { name := ← withDefault "" text? name
             fields := ← withDefault {} (nameMap? (entityField? d)) fields }
  | _ => none

/-- A structure. -/
def structure? (d : Dialect) (v : Value) : Option Structure := do
  match ← d.fields? ["name", "fields"] v with
  | [name, fields] =>
    return { name := ← withDefault "" text? name
             fields := ← withDefault {} (nameMap? (field? d)) fields }
  | _ => none

/-- A model under the name of its entry, with the targets of its relations filled in. -/
def Model.named (name : String) (m : Model) : Model :=
  { m with
    name := name
    related := m.related.map fun key r => if r.target.isEmpty then { r with target := key } else r }

/-- A registry out of a document. -/
def specification? (d : Dialect) (v : Value) : Option Registry := do
  match ← d.fields? ["models", "enums", "entities", "structures"] v with
  | [models, enumerations, entities, structures] =>
    let models ← withDefault {} (nameMap? (model? d)) models
    let enumerations ← withDefault {} (nameMap? (enumeration? d)) enumerations
    let entities ← withDefault {} (nameMap? (entity? d)) entities
    let structures ← withDefault {} (nameMap? (structure? d)) structures
    return { models := models.map Model.named
             enumerations := enumerations.map fun name e => { e with name := name }
             entities := entities.map fun name e => { e with name := name }
             structures := structures.map fun name s => { s with name := name } }
  | _ => none

/-- A registry out of a text in TOML. -/
def Registry.ofText? (text : String) : Option Registry :=
  (Toml.read? text).bind (specification? .toml)

end Schemata.Spec
