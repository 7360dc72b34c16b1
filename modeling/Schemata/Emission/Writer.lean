import Schemata.Emission.Hooks
import Schemata.Sql.Script

/-!
# Writers

Every table, view and seed of a compilation is handed to a writer, which answers with bytes. There
is one writer for each kind of specification; the one for structures may be missing while
structures are not kept.
-/

namespace Schemata.Emission

open Lowering Spec Sql

/-- Turns objects into bytes. -/
structure Writer (σ : Type) where
  table : Table → ExceptT WriteError (StateM σ) Bytes
  view : View → ExceptT WriteError (StateM σ) Bytes
  /-- The rows of a table that was written just before. -/
  seed : Seed → ExceptT WriteError (StateM σ) Bytes

/-- The writer of SQL scripts, which never refuses. -/
def Writer.sql {σ : Type} (style : ScriptStyle := {}) : Writer σ where
  table t := pure (style.table t).toUTF8
  view v := pure (style.view v).toUTF8
  seed s := pure s.script.toUTF8

/-- A writer for each kind of specification. -/
structure Writers (σ : Type) where
  models : Writer σ := .sql
  enumerations : Writer σ := .sql
  entities : Writer σ := .sql
  structures : Option (Writer σ) := some .sql

/-- The writer for a kind. -/
def Writers.forKind {σ : Type} (w : Writers σ) : Kind → Except CompileError (Writer σ)
  | .model => .ok w.models
  | .enumeration => .ok w.enumerations
  | .entity => .ok w.entities
  | .record =>
    match w.structures with
    | some writer => .ok writer
    | none => .error .missingStructureWriter

/-- The answer of a writer as a step of a compilation. -/
def Step.ofWrite {σ α : Type} (x : ExceptT WriteError (StateM σ) α) : Step σ α :=
  ExceptT.mk do
    match ← x.run with
    | .ok a => return .ok a
    | .error e => return .error (.write e)

end Schemata.Emission
