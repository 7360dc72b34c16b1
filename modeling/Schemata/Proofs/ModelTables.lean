import Schemata.Lowering.ModelTables
import Schemata.Proofs.NameMap
import Schemata.Proofs.Naming.Abbreviation
import Schemata.Proofs.Success
import Mathlib.Data.List.Nodup

/-!
# The tables of a model, as a whole

A model that compiles has become one table that can be written down at once, `tableOf`, and one
joining table for each reference to many. The reference to a target is a `Link`: the relation, and
the `Referent` that it leads to. Everything else about the tables of a model follows from that.

## Main statements

* `compileModel_ok`: the tables of a model, written down at once.
* `exists_refers`: every foreign key refers to the one key column of a registered model.
* `filter_primary_tableOf`: the key column that references refer to.
-/

namespace Schemata.Sql

open Spec

/-- The type of a column that refers to a column of the given type: a counted key is referred to by
a plain integer of its width. -/
def ColumnType.referring : ColumnType → ColumnType
  | .serial => .integer
  | .bigSerial => .bigInt
  | type => type

/-- The maps of the two sides agree on what can be referred to. -/
theorem TypeMap.get?_reference {wide : Bool} {field : FieldType} {own ref : ColumnType}
    (hown : (TypeMap.mk .own wide).get? field = some own)
    (href : (TypeMap.mk .reference wide).get? field = some ref) : ref = own.referring := by
  cases field <;> cases wide <;> cases hown <;> cases href <;> rfl

end Schemata.Sql

namespace Schemata.Lowering

open Spec Sql Settings

/-! ## Parts -/

theorem resolveTarget_ok {r : Registry} {m target : Model} {name : String} {relation : Relation} :
    resolveTarget r m name relation = .ok target ↔
      r.models.get? relation.resolved = some target := by
  unfold resolveTarget
  split <;> simp_all

theorem model_eq_ok {r : Registry} {name : String} {m : Model} :
    r.model name = .ok m ↔ r.models.get? name = some m := by
  unfold Registry.model
  split <;> simp_all

theorem columnType_ok {map : TypeMap} {model name : String} {field : Field} {type : ColumnType} :
    columnType map model name field = .ok type ↔ map.get? field.type = some type := by
  unfold columnType
  split <;> simp_all

theorem singleKey_ok {m : Model} {key : String} {field : Field} :
    singleKey m = .ok (key, field) ↔
      m.primary? = some [key] ∧ m.fields.get? key = some field := by
  unfold singleKey
  split
  · simp_all
  · simp_all
  · split <;> grind
  · simp_all

theorem addColumn_ok {t t' : Table} {c : Column} :
    addColumn t c = .ok t' ↔
      c.name ∉ t.columns.map (·.name) ∧ t' = { t with columns := t.columns ++ [c] } := by
  unfold addColumn Table.column?
  split
  · rename_i h
    obtain ⟨d, hd, hname⟩ := List.find?_isSome.1 h
    have hmem : c.name ∈ t.columns.map (·.name) :=
      List.mem_map.2 ⟨d, hd, by simpa using hname⟩
    simp [hmem]
  · rename_i h
    have hmem : c.name ∉ t.columns.map (·.name) := by
      rintro hmem
      obtain ⟨d, hd, hname⟩ := List.mem_map.1 hmem
      exact h (List.find?_isSome.2 ⟨d, hd, by simpa using hname⟩)
    simp [hmem, eq_comm]

theorem unknownField?_eq_none {m : Model} {fields : List String} :
    unknownField? m fields = none ↔ ∀ name ∈ fields, ∃ field, m.fields.get? name = some field := by
  simp [unknownField?]

theorem requireSchema_ok {schema : String} {kind : Kind} :
    requireSchema schema kind = .ok () ↔ Text.isBlank schema = false := by
  unfold requireSchema
  split <;> simp_all

/-- A model is in order by itself if it has a name and a primary identifier, and its identifiers are
made of its fields. -/
theorem checkModel_ok {m : Model} : checkModel m = .ok () ↔
    Text.isBlank m.name = false
      ∧ (∃ name rest, m.primary? = some (name :: rest))
      ∧ ∀ identifier fields, m.identifiers.get? identifier = some fields →
        ∀ name ∈ fields, ∃ field, m.fields.get? name = some field := by
  constructor
  · intro h
    unfold checkModel at h
    split at h
    · cases h
    rename_i hname
    split at h
    · cases h
    split at h
    · cases h
    split at h
    · cases h
    rename_i hprimary
    simp only at h
    split at h
    · cases h
    rename_i hunknown
    refine ⟨by simpa using hname, ?_, ?_⟩
    · cases hfields : m.primary? with
      | none => simp [hfields] at hprimary
      | some fields =>
        cases fields with
        | nil => simp [hfields] at hprimary
        | cons name rest => exact ⟨name, rest, rfl⟩
    · intro identifier fields hget
      have hnone := List.findSome?_eq_none_iff.1 hunknown _ (NameMap.mem_entries_iff.2 hget)
      exact unknownField?_eq_none.1 (Option.map_eq_none_iff.1 hnone)
  · rintro ⟨hname, ⟨name, rest, hprimary⟩, hdeclared⟩
    -- the first field of the primary identifier shows that there are fields and identifiers
    obtain ⟨field, hfield⟩ := hdeclared _ _ hprimary name List.mem_cons_self
    have hfields : m.fields.isEmpty = false := NameMap.isEmpty_of_get? hfield
    have hidentifiers : m.identifiers.isEmpty = false := NameMap.isEmpty_of_get? hprimary
    unfold checkModel
    simp only [hname, hfields, hidentifiers, hprimary, Option.getD_some, List.isEmpty_cons,
      Bool.false_eq_true, if_false]
    split
    · rename_i hunknown
      obtain ⟨e, he, hsome⟩ := List.exists_of_findSome?_eq_some hunknown
      have hnone := unknownField?_eq_none.2 (hdeclared e.1 e.2 (NameMap.mem_entries_iff.1 he))
      simp [hnone] at hsome
    · rfl

/-- Names stay distinct when a new one is added. -/
theorem nodup_names_concat {cs : List Column} {c : Column} (hnodup : (cs.map (·.name)).Nodup)
    (hnew : c.name ∉ cs.map (·.name)) : ((cs ++ [c]).map (·.name)).Nodup := by
  rw [List.map_append, List.map_singleton]
  refine List.nodup_append.2 ⟨hnodup, List.nodup_singleton _, fun x hx y hy heq => ?_⟩
  rw [List.mem_singleton.1 hy] at heq
  exact hnew (heq ▸ hx)

/-! ## The columns of fields -/

/-- The type of the column that holds a field. -/
def ownType (s : ModelSettings) (type : FieldType) : ColumnType :=
  ((TypeMap.mk .own s.wideKeys).get? type).getD .text

/-- A column can hold a field of every type. -/
theorem get?_own (s : ModelSettings) (type : FieldType) :
    (TypeMap.mk .own s.wideKeys).get? type = some (ownType s type) := by
  cases type <;> rfl

/-- The column of a field. -/
def ownColumn (s : ModelSettings) (m : Model) (entry : String × Field) : Column :=
  fieldColumn m entry.1 entry.2 (ownType s entry.2.type)

@[simp] theorem name_ownColumn (s : ModelSettings) (m : Model) (entry : String × Field) :
    (ownColumn s m entry).name = Naming.columnName entry.1 := by
  simp only [ownColumn, fieldColumn]
  split
  · rfl
  · split <;> rfl

@[simp] theorem type_ownColumn (s : ModelSettings) (m : Model) (entry : String × Field) :
    (ownColumn s m entry).type = ownType s entry.2.type := by
  simp only [ownColumn, fieldColumn]
  split
  · rfl
  · split <;> rfl

@[simp] theorem primary_ownColumn (s : ModelSettings) (m : Model) (entry : String × Field) :
    (ownColumn s m entry).primary = (m.primary?.getD []).contains entry.1 := by
  simp only [ownColumn, fieldColumn]
  split
  · rename_i h
    exact h.symm
  · rename_i h
    have hfalse := Bool.eq_false_iff.2 h
    split <;> exact hfalse.symm

/-- A field must have a value if the primary identifier lists it or it is mandatory. -/
theorem nullable_ownColumn_iff (s : ModelSettings) (m : Model) (entry : String × Field) :
    (ownColumn s m entry).nullable = false ↔
      entry.1 ∈ m.primary?.getD [] ∨ entry.2.isMandatory = true := by
  simp only [ownColumn, fieldColumn]
  split
  · rename_i h
    simp [Column.key, List.contains_iff_mem.1 h]
  · rename_i h
    have hnot : entry.1 ∉ m.primary?.getD [] := fun hmem => h (List.contains_iff_mem.2 hmem)
    split <;> simp_all [Column.required]

theorem addField_ok {s : ModelSettings} {m : Model} {t t' : Table} {entry : String × Field} :
    addField s m t entry = .ok t' ↔
      (ownColumn s m entry).name ∉ t.columns.map (·.name)
        ∧ t' = { t with columns := t.columns ++ [ownColumn s m entry] } := by
  rw [addField, bind_eq_ok]
  simp only [columnType_ok, get?_own, Option.some.injEq, exists_eq_left', addColumn_ok]
  rfl

/-- A table that starts without columns gets those of the fields, if their names are distinct. -/
theorem foldlM_addField_ok {s : ModelSettings} {m : Model} {t t' : Table}
    {entries : List (String × Field)} (ht : t.columns = []) :
    entries.foldlM (addField s m) t = .ok t' ↔
      (entries.map fun e => Naming.columnName e.1).Nodup
        ∧ t' = { t with columns := entries.map (ownColumn s m) } := by
  have hnames (done : List (String × Field)) : (done.map (ownColumn s m)).map (·.name)
      = done.map fun e => Naming.columnName e.1 := by
    simp [Function.comp_def]
  have hstart : t = { t with columns := ([] : List (String × Field)).map (ownColumn s m) } := by
    cases t
    cases ht
    rfl
  rw [← hnames]
  constructor
  · intro h
    refine foldlM_ok (fun done t' => ((done.map (ownColumn s m)).map (·.name)).Nodup
      ∧ t' = { t with columns := done.map (ownColumn s m) }) h ⟨List.nodup_nil, hstart⟩ ?_
    rintro done entry c c' - ⟨hnodup, rfl⟩ hadd
    obtain ⟨hnew, rfl⟩ := addField_ok.1 hadd
    have hmap : (done ++ [entry]).map (ownColumn s m)
        = done.map (ownColumn s m) ++ [ownColumn s m entry] := by simp
    rw [hmap]
    exact ⟨nodup_names_concat hnodup hnew, rfl⟩
  · rintro ⟨hnodup, rfl⟩
    have hstep : ∀ done entry rest c, entries = done ++ entry :: rest →
        c = { t with columns := done.map (ownColumn s m) } → ∃ c', addField s m c entry = .ok c'
          ∧ c' = { t with columns := (done ++ [entry]).map (ownColumn s m) } := by
      rintro done entry rest c rfl rfl
      refine ⟨_, addField_ok.2 ⟨?_, rfl⟩, by simp⟩
      simp only [List.map_append, List.map_cons, List.nodup_append, List.mem_cons] at hnodup
      exact fun hmem => hnodup.2.2 _ hmem _ (.inl rfl) rfl
    obtain ⟨t', hok, rfl⟩ := exists_foldlM_ok _ hstart hstep
    exact hok

/-! ## References -/

/-- What a reference refers to: a model, the one field that identifies it, and the type of a column
that refers to that field. -/
structure Referent where
  model : Model
  key : String
  field : Field
  type : ColumnType

/-- The key of a referent is that of its model, and can be referred to. -/
structure Referent.Valid (s : ModelSettings) (x : Referent) : Prop where
  key_eq : singleKey x.model = .ok (x.key, x.field)
  type_eq : (TypeMap.mk .reference s.wideKeys).get? x.field.type = some x.type

/-- A relation that refers to its target, with what it leads to. -/
structure Link extends Referent where
  relation : Relation

/-- A link leads to what its relation names. -/
structure Link.Resolves (s : ModelSettings) (r : Registry) (l : Link) : Prop
    extends l.toReferent.Valid s where
  target_eq : r.models.get? l.relation.resolved = some l.model

/-- The column that a reference to one target adds. -/
def Link.column (l : Link) : Column :=
  { name := Naming.referenceColumnName l.relation.target l.key, type := l.type }

/-- The foreign key that a reference to one target adds. -/
def Link.foreignKey (schema table : String) (l : Link) : ForeignKey :=
  cascadingKey schema table l.column.name (Naming.tableName l.model.name)
    (Naming.columnName l.key)

/-- The relations of a kind, in the order of their names. -/
def relationsOf (kind : RelationKind) (entries : List (String × Relation)) : List Relation :=
  (entries.map (·.2)).filter (·.kind == kind)

theorem mem_relationsOf {kind : RelationKind} {related : NameMap Relation} {relation : Relation} :
    relation ∈ relationsOf kind related.entries ↔
      relation.kind = kind ∧ ∃ name, related.get? name = some relation := by
  simp [relationsOf, NameMap.mem_entries_iff, and_comm]

/-- The table of a model whose references to one target are the given links. -/
def tableOf (s : ModelSettings) (m : Model) (ones : List Link) : Table :=
  let name := Naming.tableName m.name
  { schema := s.schema
    name := name
    columns := m.fields.entries.map (ownColumn s m) ++ ones.map Link.column
    foreignKeys := ones.map (Link.foreignKey s.schema name)
    indices := ones.map fun l => singleIndex s.schema name l.column.name
    uniques := uniqueConstraints m name }

/-- The table that joins a model with the target of a link. -/
def Link.junction (s : ModelSettings) (m : Model) (l : Link) : Except CompileError Table :=
  junctionTable s m l.relation l.model l.key l.type

theorem kind_eq {kind : RelationKind} {one : Bool} (hfor : kind.isFor = true)
    (hone : kind.isOne = one) : kind = if one then .forOne else .forMany := by
  obtain ⟨direction, cardinality⟩ := kind
  subst hone
  cases direction with
  | isHeld => cases hfor
  | holds => cases cardinality <;> rfl

/-- What a relation of a model adds: nothing, a reference in its table, or a joining table. -/
theorem addRelation_ok {s : ModelSettings} {r : Registry} {m : Model} {tables tables' : ModelTables}
    {entry : String × Relation} : addRelation s r m tables entry = .ok tables' ↔
    (entry.2.kind.isFor = false ∧ (∃ target, r.models.get? entry.2.resolved = some target)
      ∧ tables' = tables)
    ∨ ∃ l : Link, l.relation = entry.2 ∧ l.Resolves s r ∧
      ((entry.2.kind = .forOne ∧ l.column.name ∉ tables.table.columns.map (·.name)
          ∧ tables' = { tables with table := { tables.table with
              columns := tables.table.columns ++ [l.column]
              foreignKeys := tables.table.foreignKeys
                ++ [l.foreignKey s.schema tables.table.name]
              indices := tables.table.indices
                ++ [singleIndex s.schema tables.table.name l.column.name] } })
        ∨ (entry.2.kind = .forMany ∧ ∃ j, l.junction s m = .ok j
          ∧ tables' = { tables with junctions := tables.junctions ++ [j] })) := by
  constructor
  · intro h
    rw [addRelation, bind_eq_ok] at h
    obtain ⟨target, htarget, h⟩ := h
    rw [resolveTarget_ok] at htarget
    cases hfor : entry.2.kind.isFor with
    | false =>
      refine .inl ⟨rfl, ⟨target, htarget⟩, Eq.symm ?_⟩
      simpa [hfor] using h
    | true =>
      simp only [hfor, Bool.not_true, Bool.false_eq_true, if_false] at h
      rw [bind_eq_ok] at h
      obtain ⟨⟨key, field⟩, hkey, h⟩ := h
      rw [bind_eq_ok] at h
      obtain ⟨type, htype, h⟩ := h
      rw [columnType_ok] at htype
      refine .inr ⟨⟨⟨target, key, field, type⟩, entry.2⟩, rfl, ⟨⟨hkey, htype⟩, htarget⟩, ?_⟩
      cases hone : entry.2.kind.isOne with
      | true =>
        refine .inl ⟨kind_eq hfor hone, ?_⟩
        simp only [hone, if_true, bind_eq_ok, addReference, addColumn_ok, pure_eq_ok] at h
        obtain ⟨_, ⟨_, ⟨hnew, rfl⟩, rfl⟩, rfl⟩ := h
        exact ⟨hnew, rfl⟩
      | false =>
        refine .inr ⟨kind_eq hfor hone, ?_⟩
        simp only [hone, Bool.false_eq_true, if_false, bind_eq_ok, pure_eq_ok] at h
        obtain ⟨j, hj, rfl⟩ := h
        exact ⟨j, hj, rfl⟩
  · rw [addRelation, bind_eq_ok]
    simp only [resolveTarget_ok]
    rintro (⟨hnot, ⟨target, htarget⟩, rfl⟩ | ⟨l, hl, hres, hcase⟩)
    · exact ⟨target, htarget, by simp [hnot]⟩
    · have htarget := hres.target_eq
      rw [hl] at htarget
      refine ⟨l.model, htarget, ?_⟩
      have htype : columnType ⟨.reference, s.wideKeys⟩ l.model.name l.key l.field = .ok l.type :=
        columnType_ok.2 hres.type_eq
      have hkey := hres.key_eq
      rcases hcase with ⟨hkind, hnew, rfl⟩ | ⟨hkind, j, hj, rfl⟩
      · have hisFor : entry.2.kind.isFor = true := by rw [hkind]; rfl
        have hisOne : entry.2.kind.isOne = true := by rw [hkind]; rfl
        simp only [hisFor, hisOne, Bool.not_true, Bool.false_eq_true, if_false, if_true, bind_eq_ok,
          addReference, addColumn_ok, pure_eq_ok]
        refine ⟨_, hkey, _, htype, _, ⟨_, ⟨?_, rfl⟩, rfl⟩, ?_⟩
        · rw [← hl]
          exact hnew
        · rw [← hl]
          rfl
      · have hisFor : entry.2.kind.isFor = true := by rw [hkind]; rfl
        have hisOne : entry.2.kind.isOne = false := by rw [hkind]; rfl
        simp only [hisFor, hisOne, Bool.not_true, Bool.false_eq_true, if_false, bind_eq_ok,
          pure_eq_ok]
        refine ⟨_, hkey, _, htype, j, ?_, rfl⟩
        rw [← hl]
        exact hj

/-! ## Joining tables -/

theorem line_mem_referenceColumnName (model field : String) :
    '_' ∈ (Naming.referenceColumnName model field).toList := by
  rw [Naming.referenceColumnName, Naming.bounded, String.toList_ofList]
  exact Naming.line_mem_abbreviateChars (by simp)

theorem line_mem_otherColumn {first second : String} (h : '_' ∈ second.toList) :
    '_' ∈ (otherColumn first second).toList := by
  unfold otherColumn
  split
  · rw [Naming.abbreviate, String.toList_ofList]
    exact Naming.line_mem_abbreviateChars (by simp)
  · exact h

/-- A name with a low line is not that of the key of a joining table. -/
theorem ne_id_of_line_mem {name : String} (h : '_' ∈ name.toList) : name ≠ "id" := by
  rintro rfl
  exact absurd h (by decide)

/-- The two columns of a joining table differ, whatever is cut from their names. -/
theorem otherColumn_ne {first second : String}
    (h : Text.byteLength first.toList ≤ Naming.identifierLimit) :
    otherColumn first second ≠ first := by
  unfold otherColumn
  split
  · rename_i heq
    subst heq
    intro heq
    refine Naming.abbreviateChars_related_ne h ?_
    have hlist := congrArg String.toList heq
    simpa [Naming.abbreviate, Naming.relatedWord] using hlist
  · assumption

/-- The column of a joining table for its source. -/
def Referent.side (x : Referent) : Column :=
  Column.required { name := Naming.referenceColumnName x.model.name x.key, type := x.type }

/-- The column of a joining table for its target, next to that for its source. -/
def Link.side (x : Referent) (l : Link) : Column :=
  Column.required {
    name := otherColumn x.side.name (Naming.referenceColumnName l.relation.target l.key)
    type := l.type }

theorem Referent.name_side (x : Referent) :
    x.side.name = Naming.referenceColumnName x.model.name x.key := rfl

theorem Link.name_side (x : Referent) (l : Link) : (l.side x).name
    = otherColumn x.side.name (Naming.referenceColumnName l.relation.target l.key) := by
  simp only [Link.side, Column.required]

theorem byteLength_side (x : Referent) :
    Text.byteLength x.side.name.toList ≤ Naming.identifierLimit :=
  Naming.byteLength_bounded_le _

/-- The table that joins the model of a referent with the target of a link. -/
def junctionOf (s : ModelSettings) (x : Referent) (l : Link) : Table :=
  let name := Naming.junctionTableName x.model.name l.relation.target
  { schema := s.schema
    name := name
    columns := [
      Column.key { name := "id", type := TypeMap.counter ⟨.own, s.wideKeys⟩ }, x.side, l.side x]
    foreignKeys := [
      cascadingKey s.schema name x.side.name (Naming.tableName x.model.name)
        (Naming.columnName x.key),
      cascadingKey s.schema name (l.side x).name (Naming.tableName l.model.name)
        (Naming.columnName l.key)]
    indices := [singleIndex s.schema name x.side.name, singleIndex s.schema name (l.side x).name]
    uniques := [uniqueOver name [x.side.name, (l.side x).name]] }

/-- The source of a joining table is a referent like its target. -/
theorem Link.junction_ok {s : ModelSettings} {m : Model} {l : Link} {j : Table} :
    l.junction s m = .ok j ↔ ∃ x : Referent, x.model = m ∧ x.Valid s ∧ j = junctionOf s x l := by
  simp only [Link.junction, junctionTable, bind_eq_ok, pure_eq_ok, columnType_ok]
  constructor
  · rintro ⟨⟨key, field⟩, hkey, type, htype, rfl⟩
    refine ⟨⟨m, key, field, type⟩, rfl, ⟨hkey, htype⟩, ?_⟩
    simp only [junctionOf, Referent.side, Link.side, Column.required]
  · rintro ⟨x, rfl, hx, rfl⟩
    refine ⟨(x.key, x.field), hx.key_eq, x.type, hx.type_eq, ?_⟩
    simp only [junctionOf, Referent.side, Link.side, Column.required]

/-- The columns of a joining table have distinct names. -/
theorem nodup_names_junctionOf (s : ModelSettings) (x : Referent) (l : Link) :
    ((junctionOf s x l).columns.map (·.name)).Nodup := by
  have hsource : x.side.name ≠ "id" := by
    rw [Referent.name_side]
    exact ne_id_of_line_mem (line_mem_referenceColumnName _ _)
  have hother : (l.side x).name ≠ "id" := by
    rw [Link.name_side]
    exact ne_id_of_line_mem (line_mem_otherColumn (line_mem_referenceColumnName _ _))
  have hne : (l.side x).name ≠ x.side.name := by
    rw [Link.name_side]
    exact otherColumn_ne (byteLength_side x)
  simp only [junctionOf, Column.key, List.map_cons, List.map_nil, List.nodup_cons, List.mem_cons,
    List.not_mem_nil, or_false, not_or, not_false_eq_true, List.nodup_nil, and_true]
  exact ⟨⟨hsource.symm, hother.symm⟩, hne.symm⟩

/-! ## Whole models -/

/-- The tables of a model after the given relations, whose references to one target and to many are
the given links. -/
structure Lowered (s : ModelSettings) (r : Registry) (m : Model)
    (entries : List (String × Relation)) (ones many : List Link) (t : ModelTables) : Prop where
  ones_eq : ones.map (·.relation) = relationsOf .forOne entries
  many_eq : many.map (·.relation) = relationsOf .forMany entries
  resolves : ∀ l ∈ ones ++ many, l.Resolves s r
  targets : ∀ entry ∈ entries, ∃ target, r.models.get? entry.2.resolved = some target
  table_eq : t.table = tableOf s m ones
  nodup_names : (t.table.columns.map (·.name)).Nodup
  junctions_eq : List.Forall₂ (fun l j => l.junction s m = .ok j) many t.junctions

theorem relationsOf_concat (kind : RelationKind) (entries : List (String × Relation))
    (entry : String × Relation) : relationsOf kind (entries ++ [entry])
      = relationsOf kind entries ++ if entry.2.kind = kind then [entry.2] else [] := by
  by_cases h : entry.2.kind = kind <;> simp [relationsOf, h]

/-- One more relation adds at most one link. -/
theorem Lowered.step {s : ModelSettings} {r : Registry} {m : Model}
    {entries : List (String × Relation)} {ones many : List Link} {t t' : ModelTables}
    (hl : Lowered s r m entries ones many t) {entry : String × Relation}
    (h : addRelation s r m t entry = .ok t') :
    ∃ ones' many', Lowered s r m (entries ++ [entry]) ones' many' t' := by
  have htargets {target : Model} (h : r.models.get? entry.2.resolved = some target) :
      ∀ e ∈ entries ++ [entry], ∃ target, r.models.get? e.2.resolved = some target := by
    intro e he
    rcases List.mem_append.1 he with he | he
    · exact hl.targets e he
    · rw [List.mem_singleton.1 he]
      exact ⟨target, h⟩
  rcases addRelation_ok.1 h with ⟨hnot, ⟨target, htarget⟩, rfl⟩ | ⟨l, hl_eq, hres, hcase⟩
  · have hone : entry.2.kind ≠ .forOne := fun heq => by simp [heq, RelationKind.isFor,
      RelationKind.forOne] at hnot
    have hmany : entry.2.kind ≠ .forMany := fun heq => by simp [heq, RelationKind.isFor,
      RelationKind.forMany] at hnot
    exact ⟨ones, many, { hl with
      ones_eq := by simpa [relationsOf_concat, hone] using hl.ones_eq
      many_eq := by simpa [relationsOf_concat, hmany] using hl.many_eq
      targets := htargets htarget }⟩
  · have hne : RelationKind.forOne ≠ .forMany := by decide
    have hres' : ∀ l', l' ∈ ones ++ many ∨ l' = l → l'.Resolves s r := by
      rintro l' (hmem | rfl)
      · exact hl.resolves l' hmem
      · exact hres
    have htarget := hres.target_eq
    rw [hl_eq] at htarget
    rcases hcase with ⟨hkind, hnew, rfl⟩ | ⟨hkind, j, hj, rfl⟩
    · refine ⟨ones ++ [l], many, ⟨?_, ?_, ?_, htargets htarget, ?_,
        nodup_names_concat hl.nodup_names hnew, hl.junctions_eq⟩⟩
      · simp [relationsOf_concat, hkind, hl.ones_eq, hl_eq]
      · simp [relationsOf_concat, hkind, hne, hl.many_eq]
      · exact fun l' hl' => hres' l' (by grind)
      · simp [hl.table_eq, tableOf]
    · refine ⟨ones, many ++ [l], ⟨?_, ?_, ?_, htargets htarget, hl.table_eq, hl.nodup_names, ?_⟩⟩
      · simp [relationsOf_concat, hkind, hne.symm, hl.ones_eq]
      · simp [relationsOf_concat, hkind, hl.many_eq, hl_eq]
      · exact fun l' hl' => hres' l' (by grind)
      · exact List.rel_append hl.junctions_eq (.cons hj .nil)

/-- The tables of a model whose fields have columns of distinct names, before its relations. -/
theorem Lowered.start {s : ModelSettings} (r : Registry) {m : Model}
    (h : (m.fields.entries.map fun e => Naming.columnName e.1).Nodup) :
    Lowered s r m [] [] [] { table := tableOf s m [] } := by
  refine ⟨rfl, rfl, by simp, by simp, rfl, ?_, .nil⟩
  simpa [tableOf, Function.comp_def] using h

/-- A joining table belongs to a relation of the model to many, and the model is its source. -/
theorem Lowered.exists_junctionOf {s : ModelSettings} {r : Registry} {m : Model}
    {entries : List (String × Relation)} {ones many : List Link} {t : ModelTables} {j : Table}
    (hl : Lowered s r m entries ones many t) (hj : j ∈ t.junctions) :
    ∃ l ∈ many, ∃ x : Referent, x.model = m ∧ x.Valid s ∧ j = junctionOf s x l := by
  obtain ⟨l, hmem, hok⟩ := exists_left_of_forall₂ hl.junctions_eq hj
  exact ⟨l, hmem, Link.junction_ok.1 hok⟩

/-- The tables of a model that compiles, written down at once. -/
theorem compileModel_ok {s : ModelSettings} {r : Registry} {m : Model} {t : ModelTables}
    (h : compileModel s r m = .ok t) :
    ∃ ones many, Lowered s r m m.related.entries ones many t := by
  simp only [compileModel, bind_eq_ok] at h
  obtain ⟨_, -, _, -, table, hfields, h⟩ := h
  obtain ⟨hnodup, rfl⟩ := (foldlM_addField_ok rfl).1 hfields
  refine foldlM_ok (fun done t => ∃ ones many, Lowered s r m done ones many t) h
    ⟨[], [], ?_⟩ ?_
  · simpa [tableOf] using Lowered.start r hnodup
  · rintro done entry c c' - ⟨ones, many, hl⟩ hadd
    exact hl.step hadd

theorem checkModel_of_compileModel {s : ModelSettings} {r : Registry} {m : Model}
    {t : ModelTables} (h : compileModel s r m = .ok t) : checkModel m = .ok () := by
  rw [compileModel, bind_eq_ok] at h
  obtain ⟨_, hcheck, -⟩ := h
  exact hcheck

/-! ## Foreign keys and what they refer to -/

/-- A foreign key of a table refers to a referent: by the name of its table and its key, from one
column of the type that references to it have. -/
structure Refers (s : ModelSettings) (t : Table) (k : ForeignKey) (x : Referent) : Prop where
  valid : x.Valid s
  schema_eq : k.schema = t.schema
  table_eq : k.table = t.name
  refSchema_eq : k.refSchema = s.schema
  refTable_eq : k.refTable = Naming.tableName x.model.name
  refColumns_eq : k.refColumns = [Naming.columnName x.key]
  column : ∃ c ∈ t.columns, k.columns = [c.name] ∧ c.type = x.type

/-- Every table of a model is in the schema of models, and its columns have distinct names. -/
theorem compileModel_table {s : ModelSettings} {r : Registry} {m : Model} {ts : ModelTables}
    {t : Table} (h : compileModel s r m = .ok ts) (ht : t ∈ ts.table :: ts.junctions) :
    t.schema = s.schema ∧ (t.columns.map (·.name)).Nodup := by
  obtain ⟨ones, many, hl⟩ := compileModel_ok h
  rcases List.mem_cons.1 ht with rfl | ht
  · exact ⟨by rw [hl.table_eq]; rfl, hl.nodup_names⟩
  · obtain ⟨l, -, x, -, -, rfl⟩ := hl.exists_junctionOf ht
    exact ⟨rfl, nodup_names_junctionOf s x l⟩

/-- Every foreign key of a model's tables refers to the model itself or to a registered one. -/
theorem exists_refers {s : ModelSettings} {r : Registry} {m : Model} {ts : ModelTables} {t : Table}
    {k : ForeignKey} (h : compileModel s r m = .ok ts) (ht : t ∈ ts.table :: ts.junctions)
    (hk : k ∈ t.foreignKeys) :
    ∃ x, Refers s t k x ∧ (x.model = m ∨ ∃ name, r.models.get? name = some x.model) := by
  obtain ⟨ones, many, hl⟩ := compileModel_ok h
  rcases List.mem_cons.1 ht with rfl | ht
  · rw [hl.table_eq] at hk ⊢
    obtain ⟨l, hmem, rfl⟩ := List.mem_map.1 hk
    have hres := hl.resolves l (List.mem_append_left _ hmem)
    refine ⟨l.toReferent, ⟨hres.toValid, rfl, rfl, rfl, rfl, rfl, l.column, ?_, rfl, rfl⟩,
      .inr ⟨_, hres.target_eq⟩⟩
    exact List.mem_append_right _ (List.mem_map.2 ⟨l, hmem, rfl⟩)
  · obtain ⟨l, hmem, x, rfl, hx, rfl⟩ := hl.exists_junctionOf ht
    have hres := hl.resolves l (List.mem_append_right _ hmem)
    rcases List.mem_pair.1 hk with rfl | rfl
    · exact ⟨x, ⟨hx, rfl, rfl, rfl, rfl, rfl, x.side, by simp [junctionOf], rfl, rfl⟩, .inl rfl⟩
    · exact ⟨l.toReferent, ⟨hres.toValid, rfl, rfl, rfl, rfl, rfl, l.side x, by simp [junctionOf],
        rfl, rfl⟩, .inr ⟨_, hres.target_eq⟩⟩

/-- Of a list without repetition, a condition that holds of one element selects that element. -/
theorem filter_eq_singleton {α : Type} {l : List α} {p : α → Bool} {a : α} (hn : l.Nodup)
    (ha : a ∈ l) (hp : p a = true) (hunique : ∀ b ∈ l, p b = true → b = a) : l.filter p = [a] := by
  refine List.perm_singleton.1 ((List.perm_ext_iff_of_nodup (hn.filter p)
    (List.nodup_singleton a)).2 fun b => ?_)
  rw [List.mem_filter, List.mem_singleton]
  constructor
  · rintro ⟨hb, hpb⟩
    exact hunique b hb hpb
  · rintro rfl
    exact ⟨ha, hp⟩

/-- Of a list whose names do not repeat, a name selects one element. -/
theorem filter_name_eq {α : Type} {l : List α} {name : α → String} (hn : (l.map name).Nodup)
    {a : α} (ha : a ∈ l) : l.filter (name · == name a) = [a] := by
  refine filter_eq_singleton (List.Nodup.of_map name hn) ha (beq_self_eq_true _) fun b hb heq => ?_
  exact List.inj_on_of_nodup_map hn hb ha (beq_iff_eq.1 heq)

/-- Lists with the same images are the same, where images tell their elements apart. -/
theorem eq_of_map_eq {α β : Type} {f : α → β} {l l' : List α} (h : l.map f = l'.map f)
    (hinj : ∀ a ∈ l, ∀ b ∈ l', f a = f b → a = b) : l = l' := by
  induction l generalizing l' with
  | nil => exact (List.map_eq_nil_iff.1 h.symm).symm
  | cons a l ih =>
    cases l' with
    | nil => cases h
    | cons b l' =>
      obtain ⟨hab, hrest⟩ := List.cons.inj h
      rw [hinj a List.mem_cons_self b List.mem_cons_self hab, ih hrest fun x hx y hy =>
        hinj x (List.mem_cons_of_mem _ hx) y (List.mem_cons_of_mem _ hy)]

/-- Every field of a model has its column. -/
theorem columnName_mem_tableOf {s : ModelSettings} {m : Model} {ones : List Link} {name : String}
    {field : Field} (h : m.fields.get? name = some field) :
    Naming.columnName name ∈ (tableOf s m ones).columns.map (·.name) := by
  rw [tableOf, List.map_append, List.map_map]
  refine List.mem_append_left _ (List.mem_map.2 ⟨(name, field), NameMap.mem_entries_iff.2 h, ?_⟩)
  exact name_ownColumn s m (name, field)

/-- A model that can be referred to has one key column, which holds the field that identifies it. -/
theorem filter_primary_tableOf {s : ModelSettings} {m : Model} {ones : List Link} {key : String}
    {field : Field} (h : singleKey m = .ok (key, field)) :
    (tableOf s m ones).columns.filter (·.primary) = [ownColumn s m (key, field)] := by
  obtain ⟨hprimary, hfield⟩ := singleKey_ok.1 h
  have hlinks : (ones.map Link.column).filter (·.primary) = [] := by
    simp [List.filter_eq_nil_iff, Link.column]
  have hcontains : ((fun c : Column => c.primary) ∘ ownColumn s m) = fun e => e.1 == key := by
    funext e
    simp only [Function.comp_apply, primary_ownColumn, hprimary, Option.getD_some,
      List.contains_cons, List.contains_nil, Bool.or_false]
  rw [tableOf, List.filter_append, hlinks, List.append_nil, List.filter_map, hcontains,
    filter_name_eq (a := (key, field)) m.fields.nodup_names (NameMap.mem_entries_iff.2 hfield),
    List.map_singleton]

end Schemata.Lowering
