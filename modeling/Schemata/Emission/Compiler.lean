import Schemata.Emission.Schema

/-!
# Compilation

A compiler turns the parts of a registry into database objects, each with its hooks, and a whole
registry into a schema. A whole compilation first makes all objects, puts the tables in order, and
only then writes: tables in the order of their creation, views by the names of their entities. The
first failure ends it.

## Main definitions

* `Compiler`: settings and hooks.
* `Compiler.model`, `Compiler.enumeration`, `Compiler.entity`, `Compiler.structureTable`.
* `Compiler.compileAll`.
-/

namespace Schemata.Emission

open Lowering Spec Sql

/-- Settings and hooks of a compilation. -/
structure Compiler (σ : Type) where
  settings : Settings := {}
  hooks : Hooks σ := {}

/-- Where a table comes from. -/
inductive Source where
  | model (name : String)
  | enumeration (name : String) (seed : Seed)
  | structures
  deriving DecidableEq, Repr

/-- The kind of specification that a table comes from. -/
def Source.kind : Source → Kind
  | .model _ => .model
  | .enumeration .. => .enumeration
  | .structures => .record

/-- The name of what a table comes from. -/
def Source.name : Source → String
  | .model name => name
  | .enumeration name _ => name
  | .structures => structuresTable

/-- The rows that belong to a table. -/
def Source.seed? : Source → Option Seed
  | .enumeration _ seed => some seed
  | _ => none

/-- A table and where it comes from. -/
structure Product where
  table : Table
  source : Source
  deriving DecidableEq, Repr

namespace Compiler

variable {σ : Type}

/-- A compiler whose views read the tables that its models become. -/
def ofSettings (settings : Settings) (hooks : Hooks σ := {}) : Compiler σ :=
  ⟨settings.linked, hooks⟩

/-! ## Units -/

/-- The tables of a model. -/
def modelUnit (c : Compiler σ) (r : Registry) (m : Model) : Step σ ModelTables :=
  c.hooks.model.run c.settings.models m fun s m => Step.ofExcept (compileModel s r m)

/-- The table of an enumeration. -/
def enumerationUnit (c : Compiler σ) (e : Enumeration) : Step σ LookupTable :=
  c.hooks.enumeration.run c.settings.enumerations e fun s e =>
    Step.ofExcept (compileEnumeration s e)

/-- The view of an entity. -/
def entityUnit (c : Compiler σ) (r : Registry) (e : Entity) : Step σ View :=
  c.hooks.entity.run c.settings.entities e fun s e => Step.ofExcept (compileEntity s r e)

/-- The table of structures, when they are kept. -/
def structureTable (c : Compiler σ) : Step σ (Option Table) :=
  c.hooks.structures.run c.settings.structures () fun s _ => Step.ofExcept (compileStructures s)

/-- The tables of the model of a name. -/
def model (c : Compiler σ) (r : Registry) (name : String) : Step σ ModelTables := do
  c.modelUnit r (← Step.ofExcept ((r.model name).mapError .notFound))

/-- The table of the enumeration of a name. -/
def enumeration (c : Compiler σ) (r : Registry) (name : String) : Step σ LookupTable := do
  c.enumerationUnit (← Step.ofExcept ((r.enumeration name).mapError .notFound))

/-- The view of the entity of a name. -/
def entity (c : Compiler σ) (r : Registry) (name : String) : Step σ View := do
  c.entityUnit r (← Step.ofExcept ((r.entity name).mapError .notFound))

/-! ## Whole compilations -/

/-- What must hold before anything is compiled. -/
def ready (c : Compiler σ) (w : Writers σ) : Except CompileError Unit := do
  c.settings.check.mapError .settings
  if c.settings.structures.persistent && w.structures.isNone then throw .missingStructureWriter

/-- The tables of all enumerations. -/
def enumerationProducts (c : Compiler σ) (r : Registry) : Step σ (List Product) :=
  r.enumerations.entries.mapM fun (name, e) => do
    let t ← Step.inUnit .enumeration name (c.enumerationUnit e)
    return ⟨t.table, .enumeration name t.seed⟩

/-- The tables of all models. -/
def modelProducts (c : Compiler σ) (r : Registry) : Step σ (List Product) := do
  let products ← r.models.entries.mapM fun (name, m) => do
    let t ← Step.inUnit .model name (c.modelUnit r m)
    return t.all.map fun table => Product.mk table (.model name)
  return products.flatten

/-- The table of structures, when they are kept. -/
def structureProducts (c : Compiler σ) : Step σ (List Product) := do
  match ← Step.inUnit .record structuresTable c.structureTable with
  | some table => return [⟨table, .structures⟩]
  | none => return []

/-- The views of all entities. -/
def views (c : Compiler σ) (r : Registry) : Step σ (List (String × View)) :=
  r.entities.entries.mapM fun (name, e) => do
    return (name, ← Step.inUnit .entity name (c.entityUnit r e))

/-- Write a table, and its rows after it. -/
def writeTable (c : Compiler σ) (w : Writer σ) (table : Table) (seed : Option Seed) :
    Step σ Bytes :=
  c.hooks.writeTable.run () table fun _ table => do
    let bytes ← Step.ofWrite (w.table table)
    match seed with
    | some seed => return bytes ++ (← Step.ofWrite (w.seed seed))
    | none => return bytes

/-- Write a view. -/
def writeView (c : Compiler σ) (w : Writer σ) (view : View) : Step σ Bytes :=
  c.hooks.writeView.run () view fun _ view => Step.ofWrite (w.view view)

/-- The schema with a table that was written. -/
def record (s : Schema) (source : Source) (table : Table) (bytes : Bytes) : Schema :=
  match source with
  | .model name => s.addModel name ⟨table, bytes⟩
  | .enumeration name seed => s.addEnumeration name ⟨⟨table, seed⟩, bytes⟩
  | .structures => s.addStructures structuresTable ⟨table, bytes⟩

/-- Write tables in the given order. A table is written for the source that its qualified name
stands for, and a source is used once. -/
def writeTables (c : Compiler σ) (w : Writers σ) :
    List Table → NameMap Source → Schema → Step σ Schema
  | [], _, s => pure s
  | table :: rest, sources, s =>
    match sources.get? table.qualifiedName with
    | none => c.writeTables w rest sources s
    | some source => do
      let writer ← Step.ofExcept (w.forKind source.kind)
      let bytes ← Step.inUnit source.kind source.name
        (c.writeTable writer table source.seed?)
      c.writeTables w rest (sources.erase table.qualifiedName) (record s source table bytes)

/-- Write views in the given order. -/
def writeViews (c : Compiler σ) (w : Writers σ) : List (String × View) → Schema → Step σ Schema
  | [], s => pure s
  | (name, view) :: rest, s => do
    let bytes ← Step.inUnit .entity name (c.writeView w.entities view)
    c.writeViews w rest (s.addEntity name ⟨view, bytes⟩)

/-- The source of each qualified name; the last of a name counts. -/
def sourcesOf (products : List Product) : NameMap Source :=
  NameMap.ofList (products.map fun p => (p.table.qualifiedName, p.source))

/-- Compile a whole registry and write what it becomes. -/
def compileAll (c : Compiler σ) (r : Registry) (w : Writers σ) : Step σ Schema := do
  Step.ofExcept (c.ready w)
  let enumerations ← c.enumerationProducts r
  let models ← c.modelProducts r
  let structures ← c.structureProducts
  let views ← c.views r
  let products := enumerations ++ models ++ structures
  let ordered ← Step.ofExcept ((inOrder (products.map (·.table))).mapError .order)
  let s ← c.writeTables w ordered (sourcesOf products) {}
  c.writeViews w views s

end Compiler

end Schemata.Emission
