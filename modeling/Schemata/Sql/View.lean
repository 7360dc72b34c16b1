import Schemata.Sql.Token

/-!
# Views

Views across joined tables, and the statements that create them. Columns are referred to as
`alias.column`; a reference is cut at its first dot, and each part is quoted on its own.
-/

namespace Schemata.Sql

/-- Whether a row without a partner stays. -/
inductive JoinType where
  | inner
  | left
  deriving DecidableEq, Repr

namespace JoinType

/-- The keyword of a join type. -/
def keyword : JoinType → Keyword
  | inner => .inner
  | left => .left

/-- The name of a join type in a description of a view. -/
def name : JoinType → String
  | inner => "Inner"
  | left => "Left"

/-- The join type of a name. -/
def ofName? (s : String) : Option JoinType := [inner, left].find? (·.name == s)

end JoinType

/-- The equality of two references. -/
structure JoinCondition where
  left : String
  right : String
  deriving DecidableEq, Repr

/-- A table that is joined under an alias. -/
structure Join where
  type : JoinType
  schema : String
  table : String
  asName : String
  conditions : List JoinCondition
  deriving DecidableEq, Repr

/-- A column of a view. -/
structure ViewColumn where
  /-- The name of the column in the view. -/
  name : String
  /-- The column that is shown. -/
  source : String
  /-- The name that has to be given, when it is not that of the source. -/
  asName : Option String := none
  deriving DecidableEq, Repr

/-- A view. -/
structure View where
  schema : String
  name : String
  columns : List ViewColumn
  fromSchema : String
  fromTable : String
  fromAlias : String
  joins : List Join := []
  /-- A condition on the rows, in SQL. -/
  filter : Option String := none
  deriving DecidableEq, Repr

/-- A reference to a column under an alias. -/
def reference (asName column : String) : String := asName ++ "." ++ column

/-- The tokens of a reference, which is cut at its first dot. -/
def referenceTokens (r : String) : List Token :=
  let cs := r.toList
  match cs.dropWhile (· != '.') with
  | _ :: column =>
    [.ident (String.ofList (cs.takeWhile (· != '.'))), .dot, .ident (String.ofList column)]
  | [] => [.ident r]

/-- The tokens of a condition. -/
def JoinCondition.tokens (c : JoinCondition) : List Token :=
  spaced [referenceTokens c.left, [.equals], referenceTokens c.right]

/-- The conditions of a join, with `AND` between them. Each follows a space. -/
def conditionTokens (conditions : List JoinCondition) : List Token :=
  [Token.space, Token.keyword .and].intercalate (conditions.map fun c => .space :: c.tokens)

/-- The clause of a join. -/
def Join.tokens (j : Join) : List Token :=
  spaced [[.keyword j.type.keyword], [.keyword .join], inSchema j.schema j.table, [.keyword .as],
      [.ident j.asName], [.keyword .on]]
    ++ conditionTokens j.conditions

/-- The clause of a column. -/
def ViewColumn.tokens (c : ViewColumn) : List Token :=
  spaced (referenceTokens c.source ::
    match c.asName with
    | some name => [[.keyword .as], [.ident name]]
    | none => [])

namespace View

/-- The name of a view with its schema. -/
def qualifiedName (v : View) : String := v.schema ++ "." ++ v.name

/-- The join of an alias. -/
def join? (v : View) (asName : String) : Option Join := v.joins.find? (·.asName == asName)

/-- The table that a view reads first. Its alias is written when it differs from the table. -/
def fromTokens (v : View) : List Token :=
  spaced ([[.keyword .from], inSchema v.fromSchema v.fromTable]
    ++ if v.fromAlias != v.fromTable then [[.keyword .as], [.ident v.fromAlias]] else [])

/-- The condition on the rows, on a line of its own. -/
def filterTokens (v : View) : List Token :=
  match v.filter with
  | some sql => [.newline, .keyword .where, .space, .raw sql]
  | none => []

/-- The statement that creates a view. -/
def tokens (v : View) : List Token :=
  spaced [phrase [.create, .or, .replace, .view], inSchema v.schema v.name, [.keyword .as],
      [.keyword .select]]
    ++ lines (v.columns.map ViewColumn.tokens)
    ++ .newline :: v.fromTokens
    ++ v.joins.flatMap (fun j => .newline :: j.tokens)
    ++ v.filterTokens ++ [.semicolon]

/-- The text of the statement that creates a view. -/
def sql (v : View) : String := render v.tokens

end View

end Schemata.Sql
