import Schemata.Proofs.Compilable
import Schemata.Proofs.Naming.Wordless

/-!
# Tables and columns without names

A model must not have a blank name, and of the names of its fields nothing is asked. But tables and
columns have names in snake case, and of a name such as `!!!` nothing is left there. The model
compiles all the same, to a table that no database takes. The columns of references and the joining
tables cannot be left without a name, whatever the relations are called.

## Main definitions

* `Table.Named`: a table with a name whose columns have names.

## Main statements

* `named_junctionOf`: joining tables and their columns have names.
* `compileModel_named`: when all tables of a model and their columns have names.
* `not_named_marks`: a model whose table has no name.
-/

namespace Schemata.Sql

/-- The table and all its columns have names. -/
def Table.Named (t : Table) : Prop := t.name ≠ "" ∧ ∀ c ∈ t.columns, c.name ≠ ""

end Schemata.Sql

namespace Schemata.Lowering

open Spec Sql Settings

theorem otherColumn_ne_empty {first second : String} (h : second ≠ "") :
    otherColumn first second ≠ "" := by
  unfold otherColumn
  split
  · change Naming.bounded ("related_" ++ second).toList ≠ ""
    simp [Naming.bounded_eq_empty_iff]
  · exact h

/-- A joining table and its columns have names, whatever it joins. -/
theorem named_junctionOf (s : ModelSettings) (x : Referent) (l : Link) :
    (junctionOf s x l).Named := by
  refine ⟨Naming.junctionTableName_ne_empty _ _, fun c hc => ?_⟩
  simp only [junctionOf, List.mem_cons, List.not_mem_nil, or_false] at hc
  rcases hc with rfl | rfl | rfl
  · change "id" ≠ ""
    decide
  · rw [Referent.name_side]
    exact Naming.referenceColumnName_ne_empty _ _
  · rw [Link.name_side]
    exact otherColumn_ne_empty (Naming.referenceColumnName_ne_empty _ _)

/-- In the table of a model, what is made of the names of the model and its fields may be empty; the
columns of references are not. -/
theorem named_tableOf_iff {s : ModelSettings} {m : Model} {ones : List Link} :
    (tableOf s m ones).Named ↔
      Text.isWordless m.name = false ∧ ∀ f ∈ m.fields.names, Text.isWordless f = false := by
  have hcolumns : (∀ c ∈ (tableOf s m ones).columns, c.name ≠ "")
      ↔ ∀ f ∈ m.fields.names, Naming.columnName f ≠ "" := by
    have hlinks : ∀ l ∈ ones, l.column.name ≠ "" :=
      fun l _ => Naming.referenceColumnName_ne_empty _ _
    simp only [tableOf, List.forall_mem_append, List.forall_mem_map, NameMap.names, name_ownColumn]
    exact and_iff_left hlinks
  have hname : (tableOf s m ones).name = Naming.tableName m.name := rfl
  simp only [Table.Named, hcolumns, hname, ne_eq, Naming.tableName_eq_empty_iff,
    Naming.columnName_eq_empty_iff, Bool.not_eq_true]

/-- All tables of a model that compiles, and all their columns, have names exactly if the name of
the model and those of its fields each have a letter or a digit. Joining tables always have names,
and so have their columns. -/
theorem compileModel_named {s : ModelSettings} {r : Registry} {m : Model} {ts : ModelTables}
    (h : compileModel s r m = .ok ts) :
    (∀ j ∈ ts.junctions, j.Named)
    ∧ ((∀ t ∈ ts.table :: ts.junctions, t.Named) ↔
      Text.isWordless m.name = false ∧ ∀ f ∈ m.fields.names, Text.isWordless f = false) := by
  obtain ⟨ones, many, hl⟩ := compileModel_ok h
  have hjunctions : ∀ j ∈ ts.junctions, j.Named := by
    intro j hj
    obtain ⟨l, -, x, -, -, rfl⟩ := hl.exists_junctionOf hj
    exact named_junctionOf s x l
  have htable := @named_tableOf_iff s m ones
  rw [← hl.table_eq] at htable
  refine ⟨hjunctions, ?_⟩
  rw [← htable, List.forall_mem_cons]
  exact and_iff_left hjunctions

namespace Marks

/-- A name of three marks is not blank. -/
def model : Model :=
  { name := "!!!"
    fields := NameMap.ofList [("ID", { type := .autoIncrement })]
    identifiers := NameMap.ofList [(primary, ["ID"])] }

theorem evaluates : (compileModel {} {} model).toBool = true
    ∧ Text.isBlank model.name = false ∧ Text.isWordless model.name = true := by
  decide +kernel

end Marks

/-- A model whose name is not blank, and whose table has none. -/
theorem not_named_marks : Text.isBlank Marks.model.name = false
    ∧ ∃ ts, compileModel {} {} Marks.model = .ok ts ∧ ¬∀ t ∈ ts.table :: ts.junctions, t.Named := by
  obtain ⟨hok, hblank, hwordless⟩ := Marks.evaluates
  refine ⟨hblank, ?_⟩
  cases hts : compileModel {} {} Marks.model with
  | error e => simp [hts, Except.toBool] at hok
  | ok ts =>
    refine ⟨ts, rfl, fun hnamed => ?_⟩
    have hname := ((compileModel_named hts).2.1 hnamed).1
    rw [hwordless] at hname
    cases hname

end Schemata.Lowering
