import Schemata.Emission.Schema
import Schemata.Sql.Description

/-!
# Descriptions of schemas

What a compilation produced as document values. Bytes are left out.
-/

namespace Schemata.Lowering

open Document

/-- The description of the tables of a model. -/
def ModelTables.describe (t : ModelTables) : Value := .table [
  ("table", t.table.describe),
  ("junction_tables", .list (t.junctions.map (·.describe)))]

/-- The description of the table of an enumeration. -/
def LookupTable.describe (t : LookupTable) : Value := .table [
  ("table", t.table.describe),
  ("seed", t.seed.describe)]

end Schemata.Lowering

namespace Schemata.Emission

open Document Lowering Spec Sql

/-- The description of a map from names. -/
def describeMap {α : Type} (describe : α → Value) (m : NameMap α) : Value :=
  .table (m.entries.map fun e => (e.1, describe e.2))

/-- The description of a shelf. -/
def Shelf.describe {α : Type} (describe : α → Value) (s : Shelf α) : Value :=
  describeMap (describeMap fun a => .table [("ir", describe a.object)]) s

/-- The description of an object that was written. -/
def Emitted.describe (e : Emitted) : Value := .table [
  ("kind", .text e.kind.name),
  ("source", .text e.source),
  ("artifact", .text e.artifact)]

/-- The description of a schema. -/
def Schema.describe (s : Schema) : Value := .table [
  ("models", s.models.describe Table.describe),
  ("enums", s.enumerations.describe LookupTable.describe),
  ("entities", s.entities.describe View.describe),
  ("structures", s.structures.describe Table.describe),
  ("emission_order", .list (s.order.map (·.describe)))]

end Schemata.Emission
