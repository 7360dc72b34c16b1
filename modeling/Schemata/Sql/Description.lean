import Schemata.Document.Value
import Schemata.Sql.Seed
import Schemata.Sql.Table
import Schemata.Sql.View

/-!
# Descriptions of database objects

Tables, views and seeds as document values, field by field.
-/

namespace Schemata.Sql

open Document

/-- A text, or nothing. -/
def optionalText : Option String → Value
  | some s => .text s
  | none => .null

/-- A list of texts. -/
def texts (ss : List String) : Value := .list (ss.map .text)

/-- The description of a column. -/
def Column.describe (c : Column) : Value := .table [
  ("name", .text c.name),
  ("data_type", .text c.type.name),
  ("nullable", .bool c.nullable),
  ("primary_key", .bool c.primary),
  ("default", optionalText c.fallback)]

/-- The description of a foreign key. -/
def ForeignKey.describe (k : ForeignKey) : Value := .table [
  ("name", .text k.name),
  ("schema", .text k.schema),
  ("table", .text k.table),
  ("columns", texts k.columns),
  ("ref_schema", .text k.refSchema),
  ("ref_table", .text k.refTable),
  ("ref_columns", texts k.refColumns),
  ("on_delete", optionalText (k.onDelete.map (·.name))),
  ("on_update", optionalText (k.onUpdate.map (·.name)))]

/-- The description of an index. -/
def Index.describe (i : Index) : Value := .table [
  ("name", .text i.name),
  ("schema", .text i.schema),
  ("table", .text i.table),
  ("columns", texts i.columns),
  ("unique", .bool i.unique),
  ("method", optionalText (i.method.map (·.name)))]

/-- The description of a unique constraint. -/
def UniqueConstraint.describe (u : UniqueConstraint) : Value := .table [
  ("name", .text u.name),
  ("columns", texts u.columns)]

/-- The description of a table. -/
def Table.describe (t : Table) : Value := .table [
  ("schema", .text t.schema),
  ("name", .text t.name),
  ("columns", .list (t.columns.map (·.describe))),
  ("foreign_keys", .list (t.foreignKeys.map (·.describe))),
  ("indices", .list (t.indices.map (·.describe))),
  ("unique_constraints", .list (t.uniques.map (·.describe)))]

/-- The description of a column of a view. -/
def ViewColumn.describe (c : ViewColumn) : Value := .table [
  ("name", .text c.name),
  ("source", .text c.source),
  ("alias", optionalText c.asName)]

/-- The description of a condition. -/
def JoinCondition.describe (c : JoinCondition) : Value := .table [
  ("left", .text c.left),
  ("right", .text c.right)]

/-- The description of a join. -/
def Join.describe (j : Join) : Value := .table [
  ("join_type", .text j.type.name),
  ("schema", .text j.schema),
  ("table", .text j.table),
  ("alias", .text j.asName),
  ("conditions", .list (j.conditions.map (·.describe)))]

/-- The description of a view. -/
def View.describe (v : View) : Value := .table [
  ("schema", .text v.schema),
  ("name", .text v.name),
  ("columns", .list (v.columns.map (·.describe))),
  ("from_schema", .text v.fromSchema),
  ("from_table", .text v.fromTable),
  ("from_alias", .text v.fromAlias),
  ("joins", .list (v.joins.map (·.describe))),
  ("filter", optionalText v.filter)]

/-- The description of a seed. -/
def Seed.describe (s : Seed) : Value := .table [
  ("schema", .text s.schema),
  ("table", .text s.table),
  ("columns", texts s.columns),
  ("rows", .list (s.rows.map texts))]

end Schemata.Sql
