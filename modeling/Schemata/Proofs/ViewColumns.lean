import Schemata.Proofs.Compilable
import Schemata.Proofs.IdentifierLimit
import Schemata.Proofs.PathResolution

/-!
# The columns of a view under their names

A column of a view is known under its alias, or under the name of the column that it shows. Either
way that is the name which its field has in snake case, cut if need be. Two fields may have the same
name then, such as `FullName` and `full_name`. A table refuses its second column of a name; a view
does not, so that the names of its columns are distinct exactly if those of its fields stay so.

## Main definitions

* `ViewColumn.output`: the name under which a column of a view is known.

## Main statements

* `Viewed.output_eq`: columns are known under their names.
* `Viewed.names_eq`: these are the column names of the fields.
* `compileEntity_outputs`: when the columns of a view are known under distinct names.
* `not_nodup_outputs_cased`: an entity with two columns of one name.
-/

namespace Schemata.Sql

/-- The name under which a column of a view is known: its alias, or the name behind the dot in what
it shows. -/
def ViewColumn.output (c : ViewColumn) : Option String :=
  c.asName.or (referenceNames c.source).getLast?

end Schemata.Sql

namespace Schemata.Lowering

open Spec Sql Settings

theorem output_viewColumn {asName : String} (h : '.' ∉ asName.toList) (terminal field : String) :
    (viewColumn asName terminal field).output = some (Naming.columnName field) := by
  simp only [viewColumn, ViewColumn.output, referenceNames_reference h]
  split
  · rename_i hsame
    rw [hsame]
    rfl
  · rfl

theorem trip?_field {r : Registry} {e : Entity} {f : String × EntityField} {t : Trip}
    (h : trip? r e f = some t) : t.path.field = f.1 := by
  simp only [trip?, Option.bind_eq_bind, Option.bind_eq_some_iff, Option.pure_def,
    Option.some.injEq, toOption_eq_some] at h
  obtain ⟨path, hparse, _, -, _, -, rfl⟩ := h
  exact (parsePath_eq_ok.1 hparse).1

namespace Viewed

variable {s : EntitySettings} {r : Registry} {e : Entity} {root : Model} {trips : List Trip}
  {v : View}

theorem names_eq (hv : Viewed s r e root trips v) :
    v.columns.map (·.name) = e.fields.names.map Naming.columnName := by
  have hfields : e.fields.names = trips.map (·.path.field) := by
    rw [NameMap.names, ← List.forall₂_eq_eq_eq, List.forall₂_map_left_iff,
      List.forall₂_map_right_iff]
    exact hv.trips_eq.imp fun f t ht => (trip?_field ht).symm
  rw [hv.columns_eq, hfields, List.map_map, List.map_map]
  rfl

theorem output_eq (hv : Viewed s r e root trips v) {c : ViewColumn} (hc : c ∈ v.columns) :
    c.output = some c.name := by
  rw [hv.columns_eq] at hc
  obtain ⟨t, ht, rfl⟩ := List.mem_map.1 hc
  exact output_viewColumn (hv.fits_asName (hv.last_mem_stops ht)).2 _ _

end Viewed

/-- The columns of a view are known under the column names of its fields. These are distinct exactly
if no two fields of the entity have the same column name, which holds in particular if there is a
model with these fields. -/
theorem compileEntity_outputs {s : EntitySettings} {r : Registry} {e : Entity} {v : View}
    (h : compileEntity s r e = .ok v) :
    (∀ c ∈ v.columns, c.output = some c.name)
    ∧ v.columns.map (·.name) = e.fields.names.map Naming.columnName
    ∧ ((v.columns.map (·.name)).Nodup ↔ ∀ f ∈ e.fields.names, ∀ g ∈ e.fields.names,
        Naming.columnName f = Naming.columnName g → f = g)
    ∧ ∀ s' r' m t, compileModel s' r' m = .ok t → e.fields.names ⊆ m.fields.names →
        (v.columns.map (·.name)).Nodup := by
  obtain ⟨root, trips, hv⟩ := compileEntity_ok h
  have hiff : (v.columns.map (·.name)).Nodup ↔ ∀ f ∈ e.fields.names, ∀ g ∈ e.fields.names,
      Naming.columnName f = Naming.columnName g → f = g := by
    rw [hv.names_eq, List.nodup_map_iff_inj_on e.fields.nodup_names]
  refine ⟨fun c => hv.output_eq, hv.names_eq, hiff, fun s' r' m t hm hsub => ?_⟩
  have hdistinct : (m.fields.names.map Naming.columnName).Nodup :=
    (List.nodup_append.1 (compilable_of_ok hm).distinct).1
  exact hiff.2 fun f hf g hg => List.inj_on_of_nodup_map hdistinct (hsub hf) (hsub hg)

namespace Cased

/-- People with a key and a name. -/
def registry : Registry :=
  { models := NameMap.ofList [("Person", {
      name := "Person"
      fields := NameMap.ofList [("ID", { type := .autoIncrement }), ("Name", { type := .string })]
      identifiers := NameMap.ofList [(primary, ["ID"])] })] }

/-- Two fields whose names differ in their case only. -/
def entity : Entity :=
  { name := "Person"
    fields := NameMap.ofList [("FullName", { path := "Person.Name" }),
      ("full_name", { path := "Person.ID" })] }

theorem evaluates : (compileEntity {} registry entity).toBool = true
    ∧ "FullName" ∈ entity.fields.names ∧ "full_name" ∈ entity.fields.names
    ∧ Naming.columnName "FullName" = Naming.columnName "full_name" := by
  decide +kernel

end Cased

/-- A view with two columns that are known under one name. -/
theorem not_nodup_outputs_cased : ∃ v, compileEntity {} Cased.registry Cased.entity = .ok v
    ∧ ¬(v.columns.map (·.name)).Nodup := by
  obtain ⟨hok, hfirst, hsecond, hsame⟩ := Cased.evaluates
  cases hv : compileEntity {} Cased.registry Cased.entity with
  | error e => simp [hv, Except.toBool] at hok
  | ok v =>
    obtain ⟨-, -, hiff, -⟩ := compileEntity_outputs hv
    refine ⟨v, rfl, fun hnodup => ?_⟩
    exact absurd (hiff.1 hnodup _ hfirst _ hsecond hsame) (by decide)

end Schemata.Lowering
