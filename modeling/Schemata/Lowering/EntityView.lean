import Schemata.Lowering.ModelTables
import Schemata.Sql.View

/-!
# Views of entities

An entity becomes a view across the tables of models. Each of its fields is read along a path: a
model at which all paths of the entity begin, relations with one target each, and a field of the
model that is reached. Every relation on a path joins a table under an alias, which is the name of
the table, or the name of the table and of the relation where the path comes back to the first
table. A table that is joined already is not joined again.

## Main definitions

* `FieldPath`: a path in its parts.
* `Walk`, `Walk.hop`: following a path.
* `compileEntity`: the view of an entity.
-/

namespace Schemata.Lowering

open Spec Sql Settings

/-- The path of a field in its parts. -/
structure FieldPath where
  field : String
  root : String
  hops : List String
  terminal : String
  deriving DecidableEq, Repr

/-- The parts of a path: at least two segments, none of them empty. -/
def parsePath (e : Entity) (name : String) (field : EntityField) :
    Except CompileError FieldPath :=
  let invalid := CompileError.invalidPath e.name name field.path
  match field.segments with
  | root :: second :: rest =>
    if (root :: second :: rest).any String.isEmpty then .error invalid
    else
      let inner := second :: rest
      .ok ⟨name, root, inner.dropLast, inner.getLast (List.cons_ne_nil second rest)⟩
  | _ => .error invalid

/-- How far a path has been followed: the model it has reached, the alias of that model's table, and
the joins of the view so far. -/
structure Walk where
  model : Model
  asName : String
  joins : List Join

/-- The alias under which the table of a relation's target is joined. -/
def joinAlias (rootTable table hop : String) : String :=
  if table = rootTable then Naming.bounded (table.toList ++ '_' :: Naming.words hop) else table

/-- The join that a relation needs. -/
def joinFor (schema : String) (w : Walk) (target : Model) (table asName : String) :
    Except CompileError Join := do
  let (sourceKey, _) ← singleKey w.model
  let (targetKey, _) ← singleKey target
  return {
    type := .left
    schema := schema
    table := table
    asName := asName
    conditions := [⟨reference w.asName (Naming.columnName sourceKey),
      reference asName (Naming.columnName targetKey)⟩] }

/-- Joins with one more, unless its alias is taken. -/
def addJoin (schema : String) (w : Walk) (target : Model) (table asName : String) :
    Except CompileError (List Join) :=
  if w.joins.any (·.asName == asName) then .ok w.joins
  else do
    let join ← joinFor schema w target table asName
    return w.joins ++ [join]

/-- Follow a relation. -/
def Walk.hop (schema : String) (r : Registry) (e : Entity) (field rootTable : String) (w : Walk)
    (hop : String) : Except CompileError Walk := do
  let relation ← match w.model.related.get? hop with
    | some relation => Except.ok relation
    | none => .error (.missingRelation e.name field w.model.name hop)
  if !relation.kind.isOne then
    throw (.pluralHop e.name field w.model.name hop relation.kind)
  let target ← resolveTarget r w.model hop relation
  let table := Naming.tableName target.name
  let asName := joinAlias rootTable table hop
  let joins ← addJoin schema w target table asName
  return ⟨target, asName, joins⟩

/-- What a view consists of so far. -/
structure Draft where
  columns : List ViewColumn := []
  joins : List Join := []
  deriving DecidableEq, Repr

/-- The column of a field, read from a column under an alias. -/
def viewColumn (asName terminal field : String) : ViewColumn :=
  let source := Naming.columnName terminal
  let name := Naming.columnName field
  { name := name
    source := reference asName source
    asName := if name = source then none else some name }

/-- A draft with the column of a path, and the joins that the path needs. -/
def addPath (schema : String) (r : Registry) (e : Entity) (root : Model) (rootName : String)
    (d : Draft) (path : FieldPath) : Except CompileError Draft := do
  if path.root ≠ rootName then throw (.rootMismatch e.name rootName path.root)
  let rootTable := Naming.tableName root.name
  let w ← path.hops.foldlM (Walk.hop schema r e path.field rootTable) ⟨root, rootTable, d.joins⟩
  if !w.model.fields.contains path.terminal then
    throw (.missingField e.name path.field w.model.name path.terminal)
  return ⟨d.columns ++ [viewColumn w.asName path.terminal path.field], w.joins⟩

/-- The view of an entity. -/
def compileEntity (s : EntitySettings) (r : Registry) (e : Entity) : Except CompileError View := do
  if Text.isBlank e.name then throw .emptyEntityName
  if e.fields.isEmpty then throw (.noEntityFields e.name)
  requireSchema s.schema .entity
  requireSchema s.models.schema .model
  let paths ← e.fields.entries.mapM fun f => parsePath e f.1 f.2
  let rootName := (paths.head?.map (·.root)).getD ""
  let root ← (r.model rootName).mapError CompileError.notFound
  let draft ← paths.foldlM (addPath s.models.schema r e root rootName) {}
  let rootTable := Naming.tableName root.name
  return {
    schema := s.schema
    name := Naming.viewName e.name s.suffix
    columns := draft.columns
    fromSchema := s.models.schema
    fromTable := rootTable
    fromAlias := rootTable
    joins := draft.joins }

end Schemata.Lowering
