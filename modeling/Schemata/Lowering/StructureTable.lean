import Schemata.Lowering.Error
import Schemata.Naming

/-!
# The table of structures

All structures share one table, in which each is kept as a document with its type.
-/

namespace Schemata.Lowering

open Spec Sql Settings

/-- The name of the shared table. -/
def structuresTable : String := "morphe_structures"

/-- An index over one column of the shared table. -/
def structureIndex (schema column : String) (method : Option IndexMethod) : Index :=
  { name := Naming.indexName structuresTable [column]
    schema := schema
    table := structuresTable
    columns := [column]
    method := method }

/-- A column that holds the time at which its row was made. -/
def timeColumn (name : String) : Column :=
  Column.required { name := name, type := .timestampTz, fallback := some "now()" }

/-- The shared table. -/
def structureTable (s : StructureSettings) : Table :=
  { schema := s.schema
    name := structuresTable
    columns := [
      Column.key { name := "id", type := TypeMap.counter ⟨.own, s.wideKeys⟩ },
      Column.required { name := "type", type := .text },
      Column.required { name := "data", type := .jsonb },
      timeColumn "created_at",
      timeColumn "updated_at"]
    indices := [structureIndex s.schema "type" none, structureIndex s.schema "data" (some .gin)] }

/-- The shared table, when structures are kept. It is there even if no structure is declared. -/
def compileStructures (s : StructureSettings) : Except CompileError (Option Table) :=
  if s.persistent then do
    requireSchema s.schema .record
    return some (structureTable s)
  else .ok none

end Schemata.Lowering
