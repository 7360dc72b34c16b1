import Schemata.Sql.Token

/-!
# Seeds

The rows that a table starts with, and the statements that insert them, one a row.
-/

namespace Schemata.Sql

/-- Rows for a table. -/
structure Seed where
  schema : String
  table : String
  columns : List String
  rows : List (List String) := []
  deriving DecidableEq, Repr

namespace Seed

/-- The statement that inserts one row. -/
def rowTokens (s : Seed) (row : List String) : List Token :=
  spaced [phrase [.insert, .into], inSchema s.schema s.table, nameList s.columns,
      [.keyword .values], parenthesized (row.map fun v => [.literal v])]
    ++ [.semicolon]

/-- The statements that insert the rows, each on a line of its own. -/
def tokens (s : Seed) : List Token := [Token.newline].intercalate (s.rows.map s.rowTokens)

/-- The text of the statements that insert the rows. -/
def sql (s : Seed) : String := render s.tokens

end Seed

end Schemata.Sql
