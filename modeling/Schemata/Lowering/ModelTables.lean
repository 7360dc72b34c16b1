import Schemata.Lowering.Error
import Schemata.Naming

/-!
# Tables of models

A model becomes a table with a column for each field. A reference to one other model adds a column
with a foreign key and an index; a reference to many adds a table that joins the two. The other
side of a reference adds nothing, but its target has to exist.

## Main definitions

* `checkModel`: what a model has to fulfil by itself.
* `compileModel`: the tables of a model.
-/

namespace Schemata.Lowering

open Spec Sql Settings

/-- The tables of a model. -/
structure ModelTables where
  table : Table
  /-- The tables that join the model with others, in the order of its relations. -/
  junctions : List Table := []
  deriving DecidableEq, Repr

/-- All tables of a model, its own first. -/
def ModelTables.all (t : ModelTables) : List Table := t.table :: t.junctions

/-- The first field of an identifier that the model does not declare. -/
def unknownField? (m : Model) (fields : List String) : Option String :=
  fields.find? fun f => !m.fields.contains f

/-- What a model has to fulfil by itself: a name, fields, and identifiers made of its fields, one of
which is the primary one. -/
def checkModel (m : Model) : Except CompileError Unit :=
  if Text.isBlank m.name then .error .emptyModelName
  else if m.fields.isEmpty then .error (.noFields m.name)
  else if m.identifiers.isEmpty then .error (.noIdentifiers m.name)
  else if (m.primary?.getD []).isEmpty then .error (.noPrimary m.name)
  else
    let unknown := m.identifiers.entries.findSome? fun (identifier, fields) =>
      (unknownField? m fields).map fun field => (identifier, field)
    match unknown with
    | some (identifier, field) => .error (.unknownIdentifierField m.name identifier field)
    | none => .ok ()

/-- The one field that identifies a model, for others to refer to. -/
def singleKey (m : Model) : Except CompileError (String × Field) :=
  match m.primary? with
  | none | some [] => .error (.noPrimary m.name)
  | some [name] =>
    match m.fields.get? name with
    | some field => .ok (name, field)
    | none => .error (.unknownIdentifierField m.name primary name)
  | some fields => .error (.compositePrimary m.name fields.length)

/-- The model that a relation leads to. -/
def resolveTarget (r : Registry) (m : Model) (name : String) (relation : Relation) :
    Except CompileError Model :=
  match r.models.get? relation.resolved with
  | some target => .ok target
  | none => .error (.missingTarget m.name name relation.resolved)

/-- The column type of a field. -/
def columnType (map : TypeMap) (model name : String) (field : Field) :
    Except CompileError ColumnType :=
  match map.get? field.type with
  | some type => .ok type
  | none => .error (.unsupportedType model name field.type map)

/-- A table with one more column, of a new name. -/
def addColumn (t : Table) (c : Column) : Except CompileError Table :=
  if (t.column? c.name).isSome then .error (.duplicateColumn t.name c.name)
  else .ok { t with columns := t.columns ++ [c] }

/-- The column of a field: a key if the primary identifier lists it, required if it is mandatory. -/
def fieldColumn (m : Model) (name : String) (field : Field) (type : ColumnType) : Column :=
  let column : Column := { name := Naming.columnName name, type := type }
  if (m.primary?.getD []).contains name then column.key
  else if field.isMandatory then column.required
  else column

/-- A table with the column of a field. -/
def addField (s : ModelSettings) (m : Model) (t : Table) (entry : String × Field) :
    Except CompileError Table := do
  let type ← columnType ⟨.own, s.wideKeys⟩ m.name entry.1 entry.2
  addColumn t (fieldColumn m entry.1 entry.2 type)

/-- A unique constraint over columns of a table. -/
def uniqueOver (table : String) (columns : List String) : UniqueConstraint :=
  ⟨Naming.uniqueName table columns, columns⟩

/-- The unique constraints of a model: one for each identifier but the primary one. -/
def uniqueConstraints (m : Model) (table : String) : List UniqueConstraint :=
  (m.identifiers.entries.filter (·.1 != primary)).map fun e =>
    uniqueOver table (e.2.map Naming.columnName)

/-- A foreign key from one column to another; rows go with the row they refer to. -/
def cascadingKey (schema table column refTable refColumn : String) : ForeignKey :=
  { name := Naming.foreignKeyName table [column]
    schema := schema
    table := table
    columns := [column]
    refSchema := schema
    refTable := refTable
    refColumns := [refColumn]
    onDelete := some .cascade }

/-- An index over one column. -/
def singleIndex (schema table column : String) : Index :=
  { name := Naming.indexName table [column]
    schema := schema
    table := table
    columns := [column] }

/-- A table with a reference: a column, a foreign key and an index. -/
def addReference (s : ModelSettings) (t : Table) (relation : Relation) (target : Model)
    (key : String) (type : ColumnType) : Except CompileError Table := do
  let column := Naming.referenceColumnName relation.target key
  let t' ← addColumn t { name := column, type := type }
  return { t' with
    foreignKeys := t'.foreignKeys ++ [cascadingKey s.schema t.name column
      (Naming.tableName target.name) (Naming.columnName key)]
    indices := t'.indices ++ [singleIndex s.schema t.name column] }

/-- The name of the second column of a joining table, which must differ from the first. -/
def otherColumn (first second : String) : String :=
  if second = first then Naming.abbreviate {} ("related_" ++ second) else second

/-- The table that joins a model with the target of a relation. -/
def junctionTable (s : ModelSettings) (m : Model) (relation : Relation) (target : Model)
    (targetKey : String) (targetType : ColumnType) : Except CompileError Table := do
  let (sourceKey, sourceField) ← singleKey m
  let sourceType ← columnType ⟨.reference, s.wideKeys⟩ m.name sourceKey sourceField
  let name := Naming.junctionTableName m.name relation.target
  let source := Naming.referenceColumnName m.name sourceKey
  let other := otherColumn source (Naming.referenceColumnName relation.target targetKey)
  return {
    schema := s.schema
    name := name
    columns := [
      Column.key { name := "id", type := TypeMap.counter ⟨.own, s.wideKeys⟩ },
      Column.required { name := source, type := sourceType },
      Column.required { name := other, type := targetType }]
    foreignKeys := [
      cascadingKey s.schema name source (Naming.tableName m.name) (Naming.columnName sourceKey),
      cascadingKey s.schema name other (Naming.tableName target.name)
        (Naming.columnName targetKey)]
    indices := [singleIndex s.schema name source, singleIndex s.schema name other]
    uniques := [uniqueOver name [source, other]] }

/-- Tables of a model with what a relation adds. -/
def addRelation (s : ModelSettings) (r : Registry) (m : Model) (tables : ModelTables)
    (entry : String × Relation) : Except CompileError ModelTables := do
  let relation := entry.2
  let target ← resolveTarget r m entry.1 relation
  if !relation.kind.isFor then return tables
  let (key, field) ← singleKey target
  let type ← columnType ⟨.reference, s.wideKeys⟩ target.name key field
  if relation.kind.isOne then
    let table ← addReference s tables.table relation target key type
    return { tables with table := table }
  else
    let junction ← junctionTable s m relation target key type
    return { tables with junctions := tables.junctions ++ [junction] }

/-- The tables of a model. -/
def compileModel (s : ModelSettings) (r : Registry) (m : Model) :
    Except CompileError ModelTables := do
  checkModel m
  requireSchema s.schema .model
  let empty : Table := { schema := s.schema, name := Naming.tableName m.name }
  let table ← m.fields.entries.foldlM (addField s m) empty
  let tables : ModelTables :=
    { table := { table with uniques := uniqueConstraints m empty.name } }
  m.related.entries.foldlM (addRelation s r m) tables

end Schemata.Lowering
