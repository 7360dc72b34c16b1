import Schemata.Sql.ColumnType
import Schemata.Sql.Token

/-!
# Tables

Tables with their columns, keys, constraints and indices, and the statements that create them.

## Main definitions

* `Column`, `ForeignKey`, `UniqueConstraint`, `Index`, `Table`.
* `Table.tokens`, `Table.sql`: the statements that create a table and its indices.
* `createSchema`: the statement that creates a schema.
-/

namespace Schemata.Sql

/-- A column of a table. -/
structure Column where
  name : String
  type : ColumnType
  nullable : Bool := true
  /-- Whether the column belongs to the primary key. -/
  primary : Bool := false
  /-- An expression for the value of a row that gives none. -/
  fallback : Option String := none
  deriving DecidableEq, Repr

/-- A column that must have a value. -/
def Column.required (c : Column) : Column := { c with nullable := false }

/-- A column of the primary key, which must have a value. -/
def Column.key (c : Column) : Column := { c with nullable := false, primary := true }

/-- What happens to a row when the row it refers to changes. -/
inductive ReferentialAction where
  | noAction
  | restrict
  | cascade
  | setNull
  | setDefault
  deriving DecidableEq, Repr

namespace ReferentialAction

/-- All referential actions. -/
def all : List ReferentialAction := [noAction, restrict, cascade, setNull, setDefault]

/-- The keyword of an action. -/
def keyword : ReferentialAction → Keyword
  | noAction => .noAction
  | restrict => .restrict
  | cascade => .cascade
  | setNull => .setNull
  | setDefault => .setDefault

/-- The name of an action in a description of a table. -/
def name : ReferentialAction → String
  | noAction => "NoAction"
  | restrict => "Restrict"
  | cascade => "Cascade"
  | setNull => "SetNull"
  | setDefault => "SetDefault"

/-- The action of a name. -/
def ofName? (s : String) : Option ReferentialAction := all.find? (·.name == s)

end ReferentialAction

/-- A reference from columns of one table to columns of another. -/
structure ForeignKey where
  name : String
  /-- The table that holds the reference. -/
  schema : String
  table : String
  columns : List String
  /-- The table that is referred to. -/
  refSchema : String
  refTable : String
  refColumns : List String
  onDelete : Option ReferentialAction := none
  onUpdate : Option ReferentialAction := none
  deriving DecidableEq, Repr

/-- Whether a key refers to the table that holds it. -/
def ForeignKey.isSelfReference (k : ForeignKey) : Bool :=
  k.schema == k.refSchema && k.table == k.refTable

/-- Columns whose values together occur once in a table. -/
structure UniqueConstraint where
  name : String
  columns : List String
  deriving DecidableEq, Repr

/-- How an index is kept. -/
inductive IndexMethod where
  | bTree
  | gin
  deriving DecidableEq, Repr

namespace IndexMethod

/-- How a method is written in SQL. -/
def sql : IndexMethod → String
  | bTree => "btree"
  | gin => "gin"

/-- The name of a method in a description of a table. -/
def name : IndexMethod → String
  | bTree => "BTree"
  | gin => "Gin"

/-- The method of a name. -/
def ofName? (s : String) : Option IndexMethod := [bTree, gin].find? (·.name == s)

end IndexMethod

/-- An index over columns of a table. -/
structure Index where
  name : String
  schema : String
  table : String
  columns : List String
  unique : Bool := false
  /-- Without a method the database chooses. -/
  method : Option IndexMethod := none
  deriving DecidableEq, Repr

/-- A table. -/
structure Table where
  schema : String
  name : String
  columns : List Column := []
  foreignKeys : List ForeignKey := []
  indices : List Index := []
  uniques : List UniqueConstraint := []
  deriving DecidableEq, Repr

namespace Table

/-- The column of a name. -/
def column? (t : Table) (name : String) : Option Column := t.columns.find? (·.name == name)

/-- The names of the columns of the primary key. -/
def primaryKey (t : Table) : List String := (t.columns.filter (·.primary)).map (·.name)

/-- The name of a table with its schema. -/
def qualifiedName (t : Table) : String := t.schema ++ "." ++ t.name

end Table

/-! ## Statements -/

/-- The clause of a column. A key of one column is declared in its clause, and then needs no other
mention that the column must have a value. -/
def Column.tokens (inlineKey : Bool) (c : Column) : List Token :=
  let inline := inlineKey && c.primary
  spaced ([[.ident c.name], [.raw c.type.sql]]
    ++ (if !c.nullable && !inline then [phrase [.not, .null]] else [])
    ++ (match c.fallback with
      | some expr => [[.keyword .default], [.raw expr]]
      | none => [])
    ++ (if inline then [phrase [.primary, .key]] else []))

/-- The clause of a unique constraint. -/
def UniqueConstraint.tokens (u : UniqueConstraint) : List Token :=
  spaced [[.keyword .constraint], [.ident u.name], [.keyword .unique], nameList u.columns]

/-- What a foreign key says of an event. -/
def actionGroups (event : Keyword) : Option ReferentialAction → List (List Token)
  | some action => [phrase [.on, event, action.keyword]]
  | none => []

/-- The clause of a foreign key. -/
def ForeignKey.tokens (k : ForeignKey) : List Token :=
  spaced ([[.keyword .constraint], [.ident k.name], phrase [.foreign, .key], nameList k.columns,
      [.keyword .references], inSchema k.refSchema k.refTable ++ nameList k.refColumns]
    ++ actionGroups .delete k.onDelete ++ actionGroups .update k.onUpdate)

/-- The statement that creates an index. -/
def Index.tokens (i : Index) : List Token :=
  spaced ([[.keyword .create]]
    ++ (if i.unique then [[.keyword .unique]] else [])
    ++ [[.keyword .index], ifNotExists, [.ident i.name], [.keyword .on], inSchema i.schema i.table]
    ++ (match i.method with
      | some method => [[.keyword .using], [.raw method.sql]]
      | none => [])
    ++ [nameList i.columns ++ [.semicolon]])

/-- The text of the statement that creates an index. -/
def Index.sql (i : Index) : String := render i.tokens

namespace Table

/-- The clause of a primary key of several columns. -/
def keyClauses (t : Table) : List (List Token) :=
  if t.primaryKey.length > 1 then [spaced [phrase [.primary, .key], nameList t.primaryKey]] else []

/-- The clauses of a table: columns, primary key, unique constraints, foreign keys. -/
def clauses (t : Table) : List (List Token) :=
  t.columns.map (Column.tokens (t.primaryKey.length == 1))
    ++ t.keyClauses
    ++ t.uniques.map UniqueConstraint.tokens
    ++ t.foreignKeys.map ForeignKey.tokens

/-- The statement that creates a table. -/
def createTokens (t : Table) : List Token :=
  spaced [phrase [.create, .table], ifNotExists, inSchema t.schema t.name, [.openParen]]
    ++ lines t.clauses ++ [.newline, .closeParen, .semicolon]

/-- The statements that create a table and its indices, each on a line of its own. -/
def tokens (t : Table) : List Token :=
  t.createTokens ++ t.indices.flatMap fun i => .newline :: i.tokens

/-- The text of the statements that create a table and its indices. -/
def sql (t : Table) : String := render t.tokens

end Table

/-- The statement that creates a schema. -/
def createSchema (schema : String) : String :=
  render (spaced [phrase [.create, .schema], ifNotExists, [.ident schema, .semicolon]])

end Schemata.Sql
