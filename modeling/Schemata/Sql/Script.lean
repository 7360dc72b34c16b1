import Schemata.Sql.Seed
import Schemata.Sql.Table
import Schemata.Sql.View

/-!
# Scripts of single objects

The text in which an object is handed over: its statements, after the statement that creates its
schema where that is wanted. A seed without rows is no text at all.
-/

namespace Schemata.Sql

/-- What the script of an object contains. -/
structure ScriptStyle where
  /-- Whether each script first creates the schema. -/
  createsSchema : Bool := true
  deriving DecidableEq, Repr

namespace ScriptStyle

/-- The script of an object in a schema. -/
def wrap (style : ScriptStyle) (schema body : String) : String :=
  (if style.createsSchema then createSchema schema ++ "\n\n" else "") ++ body ++ "\n"

/-- The script of a table. -/
def table (style : ScriptStyle) (t : Table) : String := style.wrap t.schema t.sql

/-- The script of a view. -/
def view (style : ScriptStyle) (v : View) : String := style.wrap v.schema v.sql

end ScriptStyle

/-- The script of a seed. -/
def Seed.script (s : Seed) : String := if s.rows.isEmpty then "" else s.sql ++ "\n"

end Schemata.Sql
