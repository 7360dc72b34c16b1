import Schemata.Lowering.Error
import Schemata.Naming
import Schemata.Sql.Seed

/-!
# Tables of enumerations

An enumeration becomes a table of its entries, each with a key and the text of its value, and the
rows that fill it. The declared type only says which values are acceptable.
-/

namespace Schemata.Lowering

open Spec Sql Settings

/-- The table of an enumeration and the rows that fill it. -/
structure LookupTable where
  table : Table
  seed : Seed
  deriving DecidableEq, Repr

/-- The first entry whose value is not of the declared type. -/
def mistyped? (e : Enumeration) : Option String :=
  (e.entries.entries.find? fun entry => !entry.2.hasType e.type).map (·.1)

/-- What an enumeration and its settings have to fulfil. -/
def checkEnumeration (s : EnumerationSettings) (e : Enumeration) : Except CompileError Unit := do
  if Text.isBlank e.name then throw .emptyEnumerationName
  if e.entries.isEmpty then throw (.noEntries e.name)
  requireSchema s.schema .enumeration
  match mistyped? e with
  | some entry => throw (.entryType e.name entry e.type)
  | none => return ()

/-- The table of entries. -/
def entryTable (schema name : String) : Table :=
  { schema := schema
    name := name
    columns := [
      Column.key { name := "id", type := .serial },
      Column.required { name := "key", type := .text },
      Column.required { name := "value", type := .text }]
    uniques := [⟨Naming.uniqueName name ["key"], ["key"]⟩] }

/-- The rows of entries. -/
def entrySeed (schema name : String) (e : Enumeration) : Seed :=
  { schema := schema
    table := name
    columns := ["key", "value"]
    rows := e.entries.entries.map fun entry => [entry.1, entry.2.text] }

/-- The table of an enumeration and its rows. -/
def compileEnumeration (s : EnumerationSettings) (e : Enumeration) :
    Except CompileError LookupTable := do
  checkEnumeration s e
  let name := Naming.tableName e.name
  return ⟨entryTable s.schema name, entrySeed s.schema name e⟩

end Schemata.Lowering
