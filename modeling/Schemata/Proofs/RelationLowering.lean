import Schemata.Proofs.ModelTables
import Schemata.Proofs.Text.ByteOrder

/-!
# What fields, identifiers and relations become

The parts of a model and the parts of its tables correspond one to one, and in order. A field
becomes a column, an identifier a unique constraint. A relation that refers to one target becomes a
column with a foreign key and an index, at the same place in three lists; a relation that refers to
many becomes a table of its own with two such references. The other side of a relation becomes
nothing.

## Main definitions

* `keptAs`, `HoldsField`: the type of column for a field, and a column that holds one.
* `Reference`, `Reference.LeadsTo`: a column that refers to a model, with its key and its index.
* `RefersAlong`, `JoinsAlong`: what a relation to one target and to many becomes.
* `LoweredTo`: what a model becomes.

## Main statements

* `compileModel_held`: the other side of a relation leaves no trace.
* `compileModel_lowers`: every model that compiles becomes what it should.
-/

namespace Schemata.Lowering

open Spec Sql Settings

/-! ## What parts of a model become -/

/-- The type of column that keeps the values of a field. Counted keys are as wide as the settings
say, and what is concealed is kept as text. -/
def keptAs (wide : Bool) : FieldType → ColumnType
  | .autoIncrement => if wide then .bigSerial else .serial
  | .string | .encrypted | .hashed => .text
  | .integer => .integer
  | .float => .doublePrecision
  | .boolean => .boolean
  | .date => .date
  | .time => .timestampTz
  | .uuid => .uuid

/-- A column holds a field of a model: it has the type of the field, belongs to the primary key if
the primary identifier lists the field, and must have a value if that is so or the field is
mandatory. -/
structure HoldsField (s : ModelSettings) (m : Model) (entry : String × Field) (c : Column) :
    Prop where
  name_eq : c.name = Naming.columnName entry.1
  type_eq : c.type = keptAs s.wideKeys entry.2.type
  primary_iff : c.primary = true ↔ entry.1 ∈ m.primary?.getD []
  required_iff : c.nullable = false ↔
    entry.1 ∈ m.primary?.getD [] ∨ mandatory ∈ entry.2.attributes

/-- A column that refers to another table, with its foreign key and its index. -/
structure Reference where
  column : Column
  key : ForeignKey
  index : Index

/-- A reference leads from a table to a referent: the key is on the column of the reference alone,
refers to the one field that identifies the referent, and lets rows go with the row they refer to;
the index is on the same column. -/
structure Reference.LeadsTo (s : ModelSettings) (t : Table) (f : Reference) (x : Referent) : Prop
    extends Refers s t f.key x where
  key_columns : f.key.columns = [f.column.name]
  onDelete_eq : f.key.onDelete = some .cascade
  index_schema : f.index.schema = t.schema
  index_table : f.index.table = t.name
  index_columns : f.index.columns = [f.column.name]

/-- A relation to one target has become a reference: to the model that the relation leads to, in a
column that is named after the declared target, and that may be without a value. -/
def RefersAlong (s : ModelSettings) (r : Registry) (t : Table) (relation : Relation)
    (f : Reference) : Prop :=
  ∃ x : Referent, r.models.get? relation.resolved = some x.model ∧ f.LeadsTo s t x
    ∧ f.column.name = Naming.referenceColumnName relation.target x.key
    ∧ f.column.nullable = true ∧ f.column.primary = false

/-- A relation to many targets has become a table with a key of its own and two references that must
have values: first to the model itself, then to the model that the relation leads to. No two rows
join the same two. -/
structure JoinsAlong (s : ModelSettings) (r : Registry) (m : Model) (relation : Relation)
    (j : Table) (id : Column) (source target : Reference) : Prop where
  columns_eq : j.columns = [id, source.column, target.column]
  primary_eq : j.columns.filter (·.primary) = [id]
  source_required : source.column.nullable = false
  target_required : target.column.nullable = false
  foreignKeys_eq : j.foreignKeys = [source.key, target.key]
  indices_eq : j.indices = [source.index, target.index]
  uniques_eq : j.uniques.map (·.columns) = [[source.column.name, target.column.name]]
  source_leads : ∃ x : Referent, x.model = m ∧ source.LeadsTo s j x
  target_leads : ∃ x : Referent, r.models.get? relation.resolved = some x.model
    ∧ target.LeadsTo s j x

/-- What a model has become: a table with the columns of its fields, then its references to one
target, and a table for each relation to many. -/
structure LoweredTo (s : ModelSettings) (r : Registry) (m : Model) (ts : ModelTables)
    (own : List Column) (references : List Reference) : Prop where
  columns_eq : ts.table.columns = own ++ references.map (·.column)
  foreignKeys_eq : ts.table.foreignKeys = references.map (·.key)
  indices_eq : ts.table.indices = references.map (·.index)
  /-- One column for each field. -/
  fields : List.Forall₂ (HoldsField s m) m.fields.entries own
  /-- One reference for each relation to one target. -/
  ones : List.Forall₂ (RefersAlong s r ts.table) (relationsOf .forOne m.related.entries) references
  /-- One table for each relation to many. -/
  many : List.Forall₂ (fun relation j => ∃ id source target,
    JoinsAlong s r m relation j id source target) (relationsOf .forMany m.related.entries)
    ts.junctions
  /-- One unique constraint for each identifier but the primary one. -/
  uniques : ts.table.uniques.map (·.columns)
    = (m.identifiers.entries.filter (·.1 != primary)).map fun e => e.2.map Naming.columnName

/-! ## Columns and references -/

/-- The types of the map for the columns of fields. -/
theorem ownType_eq (s : ModelSettings) (type : FieldType) :
    ownType s type = keptAs s.wideKeys type := by
  cases hwide : s.wideKeys <;> cases type <;> simp [ownType, hwide] <;> rfl

theorem holdsField_ownColumn (s : ModelSettings) (m : Model) (entry : String × Field) :
    HoldsField s m entry (ownColumn s m entry) where
  name_eq := name_ownColumn s m entry
  type_eq := by rw [type_ownColumn, ownType_eq]
  primary_iff := by rw [primary_ownColumn, List.contains_iff_mem]
  required_iff := by simp [nullable_ownColumn_iff, Field.isMandatory]

/-- A reference as it is made, from a column of a table to a referent. -/
def Referent.reference (schema table : String) (c : Column) (x : Referent) : Reference where
  column := c
  key := cascadingKey schema table c.name (Naming.tableName x.model.name) (Naming.columnName x.key)
  index := singleIndex schema table c.name

theorem Referent.Valid.leadsTo {s : ModelSettings} {x : Referent} (hx : x.Valid s) {t : Table}
    (hschema : t.schema = s.schema) {c : Column} (hc : c ∈ t.columns) (htype : c.type = x.type) :
    (x.reference s.schema t.name c).LeadsTo s t x where
  valid := hx
  schema_eq := hschema.symm
  table_eq := rfl
  refSchema_eq := rfl
  refTable_eq := rfl
  refColumns_eq := rfl
  column := ⟨c, hc, rfl, htype⟩
  key_columns := rfl
  onDelete_eq := rfl
  index_schema := hschema.symm
  index_table := rfl
  index_columns := rfl

theorem refersAlong {s : ModelSettings} {r : Registry} {m : Model} {ones : List Link} {l : Link}
    (hres : l.Resolves s r) (hl : l ∈ ones) :
    RefersAlong s r (tableOf s m ones) l.relation
      (l.toReferent.reference s.schema (Naming.tableName m.name) l.column) := by
  have hmem : l.column ∈ (tableOf s m ones).columns :=
    List.mem_append_right _ (List.mem_map_of_mem hl)
  exact ⟨l.toReferent, hres.target_eq, hres.toValid.leadsTo rfl hmem rfl, rfl, rfl, rfl⟩

theorem joinsAlong {s : ModelSettings} {r : Registry} {x : Referent} {l : Link} (hx : x.Valid s)
    (hres : l.Resolves s r) : ∃ id source target,
      JoinsAlong s r x.model l.relation (junctionOf s x l) id source target := by
  have hsource : x.side ∈ (junctionOf s x l).columns := by simp [junctionOf]
  have htarget : l.side x ∈ (junctionOf s x l).columns := by simp [junctionOf]
  exact ⟨_, x.reference s.schema (junctionOf s x l).name x.side,
    l.toReferent.reference s.schema (junctionOf s x l).name (l.side x), {
      columns_eq := rfl
      primary_eq := rfl
      source_required := rfl
      target_required := rfl
      foreignKeys_eq := rfl
      indices_eq := rfl
      uniques_eq := rfl
      source_leads := ⟨x, rfl, hx.leadsTo rfl hsource rfl⟩
      target_leads := ⟨l.toReferent, hres.target_eq, hres.toValid.leadsTo rfl htarget rfl⟩ }⟩

/-! ## Whole models -/

theorem Lowered.loweredTo {s : ModelSettings} {r : Registry} {m : Model} {ones many : List Link}
    {ts : ModelTables} (hl : Lowered s r m m.related.entries ones many ts) :
    LoweredTo s r m ts (m.fields.entries.map (ownColumn s m)) (ones.map fun l =>
      l.toReferent.reference s.schema (Naming.tableName m.name) l.column) where
  columns_eq := by simp [hl.table_eq, tableOf, Referent.reference, Function.comp_def]
  foreignKeys_eq := by
    simp [hl.table_eq, tableOf, Referent.reference, Link.foreignKey, Function.comp_def]
  indices_eq := by simp [hl.table_eq, tableOf, Referent.reference, Function.comp_def]
  fields := by
    rw [List.forall₂_map_right_iff, List.forall₂_same]
    exact fun entry _ => holdsField_ownColumn s m entry
  ones := by
    rw [← hl.ones_eq, List.forall₂_map_left_iff, List.forall₂_map_right_iff, List.forall₂_same,
      hl.table_eq]
    exact fun l hmem => refersAlong (hl.resolves l (List.mem_append_left _ hmem)) hmem
  many := by
    rw [← hl.many_eq, List.forall₂_map_left_iff]
    have hmany : ∀ l ∈ many, l.Resolves s r :=
      fun l hmem => hl.resolves l (List.mem_append_right _ hmem)
    refine ((List.forall₂_and_left _ _).2 ⟨hmany, hl.junctions_eq⟩).imp ?_
    rintro l j ⟨hres, hj⟩
    obtain ⟨x, rfl, hx, rfl⟩ := Link.junction_ok.1 hj
    exact joinsAlong hx hres
  uniques := by
    simp [hl.table_eq, tableOf, uniqueConstraints, uniqueOver, Function.comp_def]

/-- Without the relations that another model holds, the same tables are made. -/
theorem compileModel_held {s : ModelSettings} {r : Registry} {m : Model} {ts : ModelTables}
    (h : compileModel s r m = .ok ts) {held : NameMap Relation}
    (hheld : held.entries = m.related.entries.filter (·.2.kind.isFor)) :
    compileModel s r { m with related := held } = .ok ts := by
  simp only [compileModel, bind_eq_ok] at h ⊢
  obtain ⟨_, hcheck, _, hschema, table, hfields, hrelations⟩ := h
  refine ⟨(), hcheck, (), hschema, table, hfields, ?_⟩
  rw [hheld]
  refine foldlM_filter hrelations fun tables entry tables' hnot hadd => ?_
  rcases addRelation_ok.1 hadd with ⟨-, -, rfl⟩ | ⟨l, -, -, ⟨hkind, -⟩ | ⟨hkind, -⟩⟩
  · rfl
  · rw [hkind] at hnot
    cases hnot
  · rw [hkind] at hnot
    cases hnot

/-- Fields, identifiers and relations of a model that compiles correspond to columns, constraints,
references and joining tables, one to one and in the order of the bytes of their names. Relations
that another model holds are looked up and leave no trace. -/
theorem compileModel_lowers {s : ModelSettings} {r : Registry} {m : Model} {ts : ModelTables}
    (h : compileModel s r m = .ok ts) :
    (∃ own references, LoweredTo s r m ts own references)
    ∧ (∀ names ∈ [m.fields.names, m.identifiers.names, m.related.names],
      names.Pairwise fun a b => Text.utf8 a < Text.utf8 b)
    ∧ ∀ held : NameMap Relation, held.entries = m.related.entries.filter (·.2.kind.isFor) →
      compileModel s r { m with related := held } = .ok ts := by
  obtain ⟨ones, many, hl⟩ := compileModel_ok h
  refine ⟨⟨_, _, hl.loweredTo⟩, ?_, fun held hheld => compileModel_held h hheld⟩
  simp only [List.forall_mem_cons, List.not_mem_nil, false_implies, implies_true, and_true]
  exact ⟨m.fields.pairwise_utf8_names, m.identifiers.pairwise_utf8_names,
    m.related.pairwise_utf8_names⟩

namespace Membership

/-- Members have a sponsor among themselves, many teams, and a badge that refers to them. -/
def member : Model :=
  { name := "Member"
    fields := NameMap.ofList [("Email", { type := .string, attributes := [mandatory] }),
      ("ID", { type := .autoIncrement }), ("Name", { type := .string })]
    identifiers := NameMap.ofList [("contact", ["Name", "Email"]), (primary, ["ID"])]
    related := NameMap.ofList [("Badge", ⟨.hasOne, "Badge", none⟩),
      ("Sponsor", ⟨.forOne, "Sponsor", some "Member"⟩), ("Team", ⟨.forMany, "Team", none⟩)] }

/-- A model with nothing but a key. -/
def keyed (name : String) : Model :=
  { name := name
    fields := NameMap.ofList [("ID", { type := .uuid })]
    identifiers := NameMap.ofList [(primary, ["ID"])] }

def registry : Registry :=
  { models :=
      NameMap.ofList [("Badge", keyed "Badge"), ("Member", member), ("Team", keyed "Team")] }

theorem exists_ok : ∃ ts, compileModel {} registry member = .ok ts
    ∧ (ts.table :: ts.junctions).map (fun t => t.columns.map (·.name))
      = [["email", "id", "name", "sponsor_id"], ["id", "member_id", "team_id"]] := by
  have heval : (compileModel {} registry member).toOption.map (fun ts =>
      (ts.table :: ts.junctions).map fun t => t.columns.map (·.name)) = some
        [["email", "id", "name", "sponsor_id"], ["id", "member_id", "team_id"]] := by
    decide +kernel
  obtain ⟨ts, hts, hnames⟩ := Option.map_eq_some_iff.1 heval
  exact ⟨ts, toOption_eq_some.1 hts, hnames⟩

end Membership

/-- A sponsor becomes a column, teams a table, and a badge nothing. -/
theorem compileModel_lowers_membership :
    ∃ ts, compileModel {} Membership.registry Membership.member = .ok ts
    ∧ (ts.table :: ts.junctions).map (fun t => t.columns.map (·.name))
      = [["email", "id", "name", "sponsor_id"], ["id", "member_id", "team_id"]]
    ∧ (∃ own references, LoweredTo {} Membership.registry Membership.member ts own references)
    ∧ compileModel {} Membership.registry
      { Membership.member with related := Membership.member.related.erase "Badge" } = .ok ts := by
  obtain ⟨ts, hok, hnames⟩ := Membership.exists_ok
  obtain ⟨hlowered, -, hheld⟩ := compileModel_lowers hok
  exact ⟨ts, hok, hnames, hlowered, hheld _ (by decide +kernel)⟩

end Schemata.Lowering
