import Schemata.Proofs.ModelTables

/-!
# Which models can be compiled

A model is refused for many reasons, at many places: while it is checked by itself, while its
relations are followed, and while columns are added to a table that has some already. Put together
they say no more than what a reader of the specification would ask of a model: it is named and
identified, its relations lead somewhere, what it refers to can be referred to, and no two of its
columns have one name.

## Main definitions

* `Referable`: a model that others can refer to.
* `columnNames`: the names of the columns of a model's table, read off the specification.
* `Compilable`: what a model has to fulfil.

## Main statements

* `Lowered.names_eq`: the columns of a table have the names that the specification gives them.
* `Lowered.exists_step`: one more relation can be added.
* `exists_compileModel_iff`: the models that compile.
-/

namespace Schemata.Sql

open Spec

/-- What is neither encrypted nor hashed can be referred to. -/
theorem TypeMap.exists_get?_reference_iff {wide : Bool} {type : FieldType} :
    (∃ ref, (TypeMap.mk .reference wide).get? type = some ref) ↔
      type ≠ .encrypted ∧ type ≠ .hashed := by
  cases type <;> simp [TypeMap.get?, TypeMap.concealed?]

end Schemata.Sql

namespace Schemata.Lowering

open Spec Sql Settings

/-! ## What is asked of a model -/

/-- A model can be referred to: one field that it declares identifies it, and what that field holds
is kept as it is. -/
def Referable (m : Model) : Prop :=
  ∃ key field, m.primary? = some [key] ∧ m.fields.get? key = some field
    ∧ field.type ≠ .encrypted ∧ field.type ≠ .hashed

/-- The name of the column that refers to the target of a relation, after the declared target and
the one field that identifies the model it leads to. -/
def referenceColumn? (r : Registry) (relation : Relation) : Option String := do
  let target ← r.models.get? relation.resolved
  match target.primary? with
  | some [key] => some (Naming.referenceColumnName relation.target key)
  | _ => none

/-- The names of the columns of a model's table: those of its fields, and of its references to one
target among the given relations. -/
def columnNames (r : Registry) (m : Model) (entries : List (String × Relation)) : List String :=
  m.fields.names.map Naming.columnName
    ++ (relationsOf .forOne entries).filterMap (referenceColumn? r)

/-- What a model has to fulfil to be compiled. -/
structure Compilable (s : ModelSettings) (r : Registry) (m : Model) : Prop where
  /-- It has a name. -/
  named : Text.isBlank m.name = false
  /-- It has a primary identifier, of one field or more. -/
  identified : ∃ key rest, m.primary? = some (key :: rest)
  /-- Its identifiers are made of its fields. -/
  declared : ∀ identifier fields, m.identifiers.get? identifier = some fields →
    ∀ name ∈ fields, ∃ field, m.fields.get? name = some field
  /-- Its tables have a schema to be in. -/
  placed : Text.isBlank s.schema = false
  /-- Its relations lead to models, whichever side holds the reference. -/
  resolved : ∀ name relation, m.related.get? name = some relation →
    ∃ target, r.models.get? relation.resolved = some target
  /-- What it refers to can be referred to. -/
  targets : ∀ name relation target, m.related.get? name = some relation →
    relation.kind.isFor = true → r.models.get? relation.resolved = some target → Referable target
  /-- Where it refers to many, joining tables have to refer to it. -/
  source : ∀ name relation, m.related.get? name = some relation → relation.kind = .forMany →
    Referable m
  /-- No two columns have one name. -/
  distinct : (columnNames r m m.related.entries).Nodup

/-! ## Referents and names -/

theorem referable_iff (s : ModelSettings) {m : Model} :
    Referable m ↔ ∃ x : Referent, x.model = m ∧ x.Valid s := by
  constructor
  · rintro ⟨key, field, hprimary, hfield, hplain⟩
    obtain ⟨type, htype⟩ := TypeMap.exists_get?_reference_iff.2 hplain
    exact ⟨⟨m, key, field, type⟩, rfl, singleKey_ok.2 ⟨hprimary, hfield⟩, htype⟩
  · rintro ⟨x, rfl, hx⟩
    obtain ⟨hprimary, hfield⟩ := singleKey_ok.1 hx.key_eq
    exact ⟨x.key, x.field, hprimary, hfield, TypeMap.exists_get?_reference_iff.1 ⟨_, hx.type_eq⟩⟩

theorem Link.Resolves.referenceColumn?_eq {s : ModelSettings} {r : Registry} {l : Link}
    (h : l.Resolves s r) : referenceColumn? r l.relation = some l.column.name := by
  obtain ⟨hprimary, -⟩ := singleKey_ok.1 h.key_eq
  simp [referenceColumn?, h.target_eq, hprimary, Link.column]

/-- Among distinct names, that of a reference is not one of those before it. -/
theorem notMem_columnNames {r : Registry} {m : Model} {done rest : List (String × Relation)}
    {entry : String × Relation} {name : String}
    (h : (columnNames r m (done ++ entry :: rest)).Nodup) (hkind : entry.2.kind = .forOne)
    (hname : referenceColumn? r entry.2 = some name) : name ∉ columnNames r m done := by
  have hsplit : columnNames r m (done ++ entry :: rest) = columnNames r m done
      ++ name :: (relationsOf .forOne rest).filterMap (referenceColumn? r) := by
    simp [columnNames, relationsOf, hkind, hname]
  rw [hsplit] at h
  exact fun hmem => (List.nodup_append.1 h).2.2 name hmem name List.mem_cons_self rfl

namespace Lowered

variable {s : ModelSettings} {r : Registry} {m : Model} {entries : List (String × Relation)}
  {ones many : List Link} {t : ModelTables}

/-- The columns of a table have the names that the specification gives them. -/
theorem names_eq (hl : Lowered s r m entries ones many t) :
    t.table.columns.map (·.name) = columnNames r m entries := by
  have hones : ones.filterMap (fun l => referenceColumn? r l.relation)
      = ones.map (·.column.name) := by
    rw [← List.filterMap_eq_map]
    refine List.filterMap_congr fun l hmem => ?_
    exact (hl.resolves l (List.mem_append_left _ hmem)).referenceColumn?_eq
  rw [hl.table_eq, columnNames, ← hl.ones_eq, List.filterMap_map]
  simp [tableOf, NameMap.names, Function.comp_def, hones]

/-- A model that compiles refers to models that can be referred to. -/
theorem referable_target (hl : Lowered s r m m.related.entries ones many t) {name : String}
    {relation : Relation} {target : Model} (hget : m.related.get? name = some relation)
    (hfor : relation.kind.isFor = true) (htarget : r.models.get? relation.resolved = some target) :
    Referable target := by
  have hlink : relation ∈ (ones ++ many).map (·.relation) := by
    rw [List.map_append, hl.ones_eq, hl.many_eq, List.mem_append, mem_relationsOf, mem_relationsOf]
    have hkind := kind_eq hfor rfl
    split at hkind
    · exact .inl ⟨hkind, name, hget⟩
    · exact .inr ⟨hkind, name, hget⟩
  obtain ⟨l, hmem, rfl⟩ := List.mem_map.1 hlink
  have hres := hl.resolves l hmem
  obtain rfl : l.model = target := Option.some.inj (hres.target_eq.symm.trans htarget)
  exact (referable_iff s).2 ⟨l.toReferent, rfl, hres.toValid⟩

/-- A model that compiles and refers to many can be referred to itself. -/
theorem referable_source (hl : Lowered s r m m.related.entries ones many t) {name : String}
    {relation : Relation} (hget : m.related.get? name = some relation)
    (hkind : relation.kind = .forMany) : Referable m := by
  have hlink : relation ∈ many.map (·.relation) := by
    rw [hl.many_eq, mem_relationsOf]
    exact ⟨hkind, name, hget⟩
  obtain ⟨l, hmem, rfl⟩ := List.mem_map.1 hlink
  obtain ⟨j, -, hj⟩ := exists_left_of_forall₂ hl.junctions_eq.flip hmem
  obtain ⟨x, hx, hvalid, -⟩ := Link.junction_ok.1 hj
  exact (referable_iff s).2 ⟨x, hx, hvalid⟩

/-- One more relation of a model that is to be compiled can be added. -/
theorem exists_step (hl : Lowered s r m entries ones many t) (hc : Compilable s r m)
    {entry : String × Relation} {rest : List (String × Relation)}
    (hentries : m.related.entries = entries ++ entry :: rest) :
    ∃ t', addRelation s r m t entry = .ok t' := by
  obtain ⟨name, relation⟩ := entry
  have hget : m.related.get? name = some relation :=
    NameMap.mem_entries_iff.1 (hentries ▸ List.mem_append_right _ List.mem_cons_self)
  obtain ⟨target, htarget⟩ := hc.resolved name relation hget
  cases hfor : relation.kind.isFor with
  | false => exact ⟨t, addRelation_ok.2 (.inl ⟨hfor, ⟨target, htarget⟩, rfl⟩)⟩
  | true =>
    obtain ⟨x, rfl, hx⟩ := (referable_iff s).1 (hc.targets name relation target hget hfor htarget)
    have hres : Link.Resolves s r ⟨x, relation⟩ := ⟨hx, htarget⟩
    have hkind := kind_eq hfor rfl
    split at hkind
    · -- a reference to one target needs a column of a new name
      have hnew : (Link.mk x relation).column.name ∉ t.table.columns.map (·.name) := by
        rw [hl.names_eq]
        exact notMem_columnNames (hentries ▸ hc.distinct) hkind hres.referenceColumn?_eq
      exact ⟨_, addRelation_ok.2 (.inr ⟨⟨x, relation⟩, rfl, hres, .inl ⟨hkind, hnew, rfl⟩⟩)⟩
    · -- a reference to many needs the model itself as a referent
      obtain ⟨y, hy, hvalid⟩ := (referable_iff s).1 (hc.source name relation hget hkind)
      exact ⟨_, addRelation_ok.2 (.inr ⟨⟨x, relation⟩, rfl, hres, .inr ⟨hkind, _,
        Link.junction_ok.2 ⟨y, hy, hvalid, rfl⟩, rfl⟩⟩)⟩

end Lowered

/-! ## Success -/

theorem compilable_of_ok {s : ModelSettings} {r : Registry} {m : Model} {t : ModelTables}
    (h : compileModel s r m = .ok t) : Compilable s r m := by
  obtain ⟨ones, many, hl⟩ := compileModel_ok h
  simp only [compileModel, bind_eq_ok] at h
  obtain ⟨⟨⟩, hcheck, ⟨⟩, hschema, -⟩ := h
  obtain ⟨hnamed, hidentified, hdeclared⟩ := checkModel_ok.1 hcheck
  exact {
    named := hnamed
    identified := hidentified
    declared := hdeclared
    placed := requireSchema_ok.1 hschema
    resolved := fun _ _ hget => hl.targets _ (NameMap.mem_entries_iff.2 hget)
    targets := fun _ _ _ hget hfor htarget => hl.referable_target hget hfor htarget
    source := fun _ _ hget hkind => hl.referable_source hget hkind
    distinct := hl.names_eq ▸ hl.nodup_names }

theorem Compilable.exists_ok {s : ModelSettings} {r : Registry} {m : Model}
    (hc : Compilable s r m) : ∃ t, compileModel s r m = .ok t := by
  have hfields : (m.fields.entries.map fun e => Naming.columnName e.1).Nodup := by
    simpa [NameMap.names, Function.comp_def] using (List.nodup_append.1 hc.distinct).1
  have hstart : ∃ ones many, Lowered s r m [] ones many { table := tableOf s m [] } :=
    ⟨[], [], Lowered.start r hfields⟩
  have hstep : ∀ done entry rest t, m.related.entries = done ++ entry :: rest →
      (∃ ones many, Lowered s r m done ones many t) → ∃ t', addRelation s r m t entry = .ok t'
        ∧ ∃ ones many, Lowered s r m (done ++ [entry]) ones many t' := by
    rintro done entry rest t hentries ⟨ones, many, hl⟩
    obtain ⟨t', hok⟩ := hl.exists_step hc hentries
    exact ⟨t', hok, hl.step hok⟩
  obtain ⟨t, ht, -⟩ := exists_foldlM_ok _ hstart hstep
  refine ⟨t, ?_⟩
  simp only [compileModel, bind_eq_ok]
  refine ⟨(), checkModel_ok.2 ⟨hc.named, hc.identified, hc.declared⟩, (),
    requireSchema_ok.2 hc.placed, _, (foldlM_addField_ok rfl).2 ⟨hfields, rfl⟩, ?_⟩
  simpa [tableOf] using ht

/-- A model compiles exactly if it is named and identified, has a schema to be in, all its relations
lead to models, what it refers to can be referred to, so can the model itself if it refers to many,
and no two columns of its table have one name. -/
theorem exists_compileModel_iff {s : ModelSettings} {r : Registry} {m : Model} :
    (∃ t, compileModel s r m = .ok t) ↔ Compilable s r m :=
  ⟨fun ⟨_, h⟩ => compilable_of_ok h, Compilable.exists_ok⟩

end Schemata.Lowering
