import Schemata.Proofs.Compilation
import Schemata.Proofs.OrderOutcome

/-!
# Which tables depend on which

The tables of a registry depend on each other as its models refer to each other. A reference to one
target makes the table of a model depend on that of the target; a reference to many makes a joining
table depend on both; and no table depends on a joining table, on the table of an enumeration, or on
the table of structures. A model that refers to itself does not depend on itself.

## Main definitions

* `Registry.RefersTo`: a relation to one target leads from one model to another.

## Main statements

* `Units.Of.exists_of_dependsOn`: what a table depends on is the table of a model.
* `Units.Of.awaits_iff`: the dependencies between the tables of models.
* `Units.Of.mem_isCycle_iff`: models on a cycle of references have their tables on a cycle.
-/

namespace Schemata.Spec

/-- A relation of the model of one name holds a reference to one target, which is the registered
model of the other name. -/
def Registry.RefersTo (r : Registry) (source target : String) : Prop :=
  ∃ m name relation, r.models.get? source = some m ∧ m.related.get? name = some relation
    ∧ relation.kind = .forOne ∧ relation.resolved = target ∧ ∃ m', r.models.get? target = some m'

end Schemata.Spec

namespace Schemata.Lowering

open Spec Sql Settings

/-- The foreign key of a link refers to its own table if that is named as the target's table. -/
theorem Link.isSelfReference_foreignKey {schema table : String} {l : Link} :
    (l.foreignKey schema table).isSelfReference = true ↔ table = Naming.tableName l.model.name := by
  simp [Link.foreignKey, cascadingKey, ForeignKey.isSelfReference]

/-- The links of a model that compiles lead where the model refers to. -/
theorem Lowered.refersTo_iff {s : ModelSettings} {r : Registry} {m : Model} {ones many : List Link}
    {ts : ModelTables} (hl : Lowered s r m m.related.entries ones many ts) {source target : String}
    (hm : r.models.get? source = some m) :
    r.RefersTo source target ↔ ∃ l ∈ ones, l.relation.resolved = target := by
  have hones {relation : Relation} : relation ∈ ones.map (·.relation) ↔
      relation.kind = .forOne ∧ ∃ name, m.related.get? name = some relation := by
    rw [hl.ones_eq, mem_relationsOf]
  constructor
  · rintro ⟨m', name, relation, hm', hget, hkind, rfl, -⟩
    obtain rfl : m' = m := Option.some.inj (hm'.symm.trans hm)
    obtain ⟨l, hmem, rfl⟩ := List.mem_map.1 (hones.2 ⟨hkind, name, hget⟩)
    exact ⟨l, hmem, rfl⟩
  · rintro ⟨l, hmem, rfl⟩
    obtain ⟨hkind, name, hget⟩ := hones.1 (List.mem_map_of_mem hmem)
    exact ⟨m, name, l.relation, hm, hget, hkind, rfl, l.model,
      (hl.resolves l (List.mem_append_left _ hmem)).target_eq⟩

end Schemata.Lowering

namespace Schemata.Emission

open Lowering Relation Spec Sql

variable {σ : Type}

theorem Units.table_mem {u : Units} {x : String × ModelTables} (hx : x ∈ u.models) :
    x.2.table ∈ u.products.map (·.table) :=
  List.mem_map.2 ⟨_, table_mem_products hx List.mem_cons_self, rfl⟩

namespace Units.Of

variable {settings : Settings} {r : Registry} {u : Units}

/-! ## The tables of models -/

/-- The unit of a model is that of its name. -/
theorem eq_of_name (hu : u.Of (Compiler.ofSettings settings : Compiler σ) r)
    {x y : String × ModelTables} (hx : x ∈ u.models) (hy : y ∈ u.models) (h : x.1 = y.1) :
    x = y := by
  have hnames : (u.models.map (·.1)).Nodup := hu.model_names ▸ r.models.nodup_names
  exact List.inj_on_of_nodup_map hnames hx hy h

/-- The unit of a model is the only one whose table has its key. -/
theorem eq_of_tableKey (hu : u.Of (Compiler.ofSettings settings : Compiler σ) r)
    (hkeys : (u.products.map (·.table.key)).Nodup) {x y : String × ModelTables}
    (hx : x ∈ u.models) (hy : y ∈ u.models) (h : x.2.table.key = y.2.table.key) : x = y := by
  have hsame := List.inj_on_of_nodup_map hkeys (table_mem_products hx List.mem_cons_self)
    (table_mem_products hy List.mem_cons_self) h
  exact hu.eq_of_name hx hy (Source.model.inj (congrArg Product.source hsame))

variable [Nonempty σ]

/-- What a foreign key refers to is the table of a model. -/
theorem exists_of_foreignKey (hu : u.Of (Compiler.ofSettings settings : Compiler σ) r)
    {p : Product} (hp : p ∈ u.products) {k : ForeignKey} (hk : k ∈ p.table.foreignKeys) :
    ∃ y ∈ u.models, (k.refSchema, k.refTable) = y.2.table.key := by
  obtain ⟨name, m, ts, hm, hok, ht⟩ := hu.compileModel_of_foreignKey hp hk
  obtain ⟨x, hx, hregistered⟩ := exists_refers hok ht hk
  obtain ⟨name', hname'⟩ : ∃ name', r.models.get? name' = some x.model := by
    rcases hregistered with heq | hother
    · exact ⟨name, heq ▸ hm⟩
    · exact hother
  obtain ⟨ts', hts', hok'⟩ := hu.exists_models hname'
  obtain ⟨ones, many, hl⟩ := compileModel_ok hok'
  refine ⟨_, hts', ?_⟩
  rw [hl.table_eq]
  exact Prod.ext hx.refSchema_eq hx.refTable_eq

/-- What a table depends on is the table of a model. -/
theorem exists_of_dependsOn (hu : u.Of (Compiler.ofSettings settings : Compiler σ) r) {p : Product}
    (hp : p ∈ u.products) {t : Table} (h : p.table.dependsOn t = true) :
    ∃ y ∈ u.models, t.key = y.2.table.key := by
  obtain ⟨k, hk, -, href⟩ := Table.dependsOn_iff.1 h
  obtain ⟨y, hy, hkey⟩ := hu.exists_of_foreignKey hp hk
  exact ⟨y, hy, href.symm.trans hkey⟩

/-! ## Dependencies and references -/

/-- A link leads to the model whose table has the key that references to it name. -/
theorem resolved_eq_iff (hu : u.Of (Compiler.ofSettings settings : Compiler σ) r)
    (hkeys : (u.products.map (·.table.key)).Nodup) {l : Link} (hl : l.Resolves settings.models r)
    {y : String × ModelTables} (hy : y ∈ u.models) : l.relation.resolved = y.1 ↔
      (settings.models.schema, Naming.tableName l.model.name) = y.2.table.key := by
  obtain ⟨ts, hts, hok⟩ := hu.exists_models hl.target_eq
  obtain ⟨ones, many, hlowered⟩ := compileModel_ok hok
  have hkey : ts.table.key = (settings.models.schema, Naming.tableName l.model.name) := by
    rw [hlowered.table_eq]
    rfl
  rw [← hkey]
  constructor
  · intro h
    rw [← hu.eq_of_name hts hy h]
  · intro h
    rw [← hu.eq_of_tableKey hkeys hts hy h]

/-- The table of a model depends on that of another exactly if the model refers to the other. -/
theorem awaits_iff (hu : u.Of (Compiler.ofSettings settings : Compiler σ) r)
    (hkeys : (u.products.map (·.table.key)).Nodup) {x y : String × ModelTables}
    (hx : x ∈ u.models) (hy : y ∈ u.models) :
    Awaits (u.products.map (·.table)) x.2.table y.2.table ↔ x.1 ≠ y.1 ∧ r.RefersTo x.1 y.1 := by
  obtain ⟨m, hm, hok⟩ := Compiler.model_eq_pure.1 (hu.model x hx)
  obtain ⟨ones, many, hl⟩ := compileModel_ok hok
  have hown : x.2.table.key = (settings.models.schema, Naming.tableName m.name) := by
    rw [hl.table_eq]
    rfl
  have hkeysOf : x.2.table.foreignKeys
      = ones.map (Link.foreignKey settings.models.schema (Naming.tableName m.name)) := by
    rw [hl.table_eq]
    rfl
  have hlink {l : Link} (hmem : l ∈ ones) :=
    hu.resolved_eq_iff hkeys (hl.resolves l (List.mem_append_left _ hmem)) hy
  rw [hl.refersTo_iff hm]
  constructor
  · rintro ⟨-, -, hd⟩
    obtain ⟨k, hk, hself, href⟩ := Table.dependsOn_iff.1 hd
    rw [hkeysOf] at hk
    obtain ⟨l, hmem, rfl⟩ := List.mem_map.1 hk
    refine ⟨fun hname => ?_, l, hmem, (hlink hmem).2 href⟩
    -- a key that refers to its own table is no dependency
    have hsame : (settings.models.schema, Naming.tableName l.model.name) = x.2.table.key :=
      hu.eq_of_name hx hy hname ▸ href
    rw [hown] at hsame
    rw [Link.isSelfReference_foreignKey.2 (Prod.mk.inj hsame).2.symm] at hself
    cases hself
  · rintro ⟨hne, l, hmem, hres⟩
    have href := (hlink hmem).1 hres
    refine ⟨table_mem hx, table_mem hy, Table.dependsOn_iff.2
      ⟨l.foreignKey settings.models.schema (Naming.tableName m.name), ?_, ?_, href⟩⟩
    · exact hkeysOf ▸ List.mem_map_of_mem hmem
    · refine Bool.eq_false_iff.2 fun hself => hne ?_
      rw [← Link.isSelfReference_foreignKey.1 hself, ← hown] at href
      exact congrArg Prod.fst (hu.eq_of_tableKey hkeys hx hy href)

/-- What the table of a model depends on is the table of a model. -/
theorem exists_of_awaits (hu : u.Of (Compiler.ofSettings settings : Compiler σ) r)
    (hkeys : (u.products.map (·.table.key)).Nodup) {t t' : Table}
    (h : Awaits (u.products.map (·.table)) t t') : ∃ y ∈ u.models, y.2.table = t' := by
  obtain ⟨ht, ht', hd⟩ := h
  obtain ⟨p, hp, rfl⟩ := List.mem_map.1 ht
  obtain ⟨y, hy, hkey⟩ := hu.exists_of_dependsOn hp hd
  have hkeys' : ((u.products.map (·.table)).map Table.key).Nodup := by rwa [List.map_map]
  exact ⟨y, hy, List.inj_on_of_nodup_map hkeys' (table_mem hy) ht' hkey.symm⟩

theorem exists_of_reflTransGen (hu : u.Of (Compiler.ofSettings settings : Compiler σ) r)
    (hkeys : (u.products.map (·.table.key)).Nodup) {x : String × ModelTables} (hx : x ∈ u.models)
    {t : Table} (h : ReflTransGen (Awaits (u.products.map (·.table))) x.2.table t) :
    ∃ y ∈ u.models, y.2.table = t := by
  rcases ReflTransGen.cases_tail h with rfl | ⟨_, -, hlast⟩
  · exact ⟨x, hx, rfl⟩
  · exact hu.exists_of_awaits hkeys hlast

theorem exists_of_reflTransGen_refersTo (hu : u.Of (Compiler.ofSettings settings : Compiler σ) r)
    {x : String × ModelTables} (hx : x ∈ u.models) {name : String}
    (h : ReflTransGen r.RefersTo x.1 name) : ∃ y ∈ u.models, y.1 = name := by
  rcases ReflTransGen.cases_tail h with rfl | ⟨_, -, _, _, _, -, -, -, -, m, hm⟩
  · exact ⟨x, hx, rfl⟩
  · obtain ⟨ts, hts, -⟩ := hu.exists_models hm
    exact ⟨_, hts, rfl⟩

/-- The tables of models lead to each other exactly as the models refer to each other. -/
theorem reflTransGen_awaits_iff (hu : u.Of (Compiler.ofSettings settings : Compiler σ) r)
    (hkeys : (u.products.map (·.table.key)).Nodup) {x y : String × ModelTables}
    (hx : x ∈ u.models) (hy : y ∈ u.models) :
    ReflTransGen (Awaits (u.products.map (·.table))) x.2.table y.2.table ↔
      ReflTransGen r.RefersTo x.1 y.1 := by
  constructor
  · generalize ht : y.2.table = t
    intro h
    induction h generalizing y with
    | refl => rw [hu.eq_of_tableKey hkeys hx hy (congrArg Table.key ht.symm)]
    | tail hpath hstep ih =>
      obtain ⟨z, hz, rfl⟩ := hu.exists_of_reflTransGen hkeys hx hpath
      exact (ih hz rfl).tail ((hu.awaits_iff hkeys hz hy).1 (ht ▸ hstep)).2
  · generalize hname : y.1 = name
    intro h
    induction h generalizing y with
    | refl => rw [hu.eq_of_name hx hy hname.symm]
    | tail hpath hstep ih =>
      obtain ⟨z, hz, rfl⟩ := hu.exists_of_reflTransGen_refersTo hx hpath
      by_cases hself : z.1 = y.1
      -- a model that refers to itself leads nowhere else
      · rw [← hu.eq_of_name hz hy hself]
        exact ih hz rfl
      · exact (ih hz rfl).tail ((hu.awaits_iff hkeys hz hy).2 ⟨hself, hname ▸ hstep⟩)

/-- The table of a model is on a cycle of two or more exactly if the model is. -/
theorem mem_isCycle_iff (hu : u.Of (Compiler.ofSettings settings : Compiler σ) r)
    (hkeys : (u.products.map (·.table.key)).Nodup) {x : String × ModelTables} (hx : x ∈ u.models) :
    (∃ cycle, IsCycle (Awaits (u.products.map (·.table))) cycle ∧ 2 ≤ cycle.length
        ∧ x.2.table ∈ cycle)
      ↔ ∃ cycle, IsCycle r.RefersTo cycle ∧ 2 ≤ cycle.length ∧ x.1 ∈ cycle := by
  rw [Schemata.exists_isCycle_iff, Schemata.exists_isCycle_iff]
  constructor
  · rintro ⟨t, hne, hgo, hback⟩
    obtain ⟨y, hy, rfl⟩ := hu.exists_of_reflTransGen hkeys hx hgo
    refine ⟨y.1, fun hname => hne ?_, (hu.reflTransGen_awaits_iff hkeys hx hy).1 hgo,
      (hu.reflTransGen_awaits_iff hkeys hy hx).1 hback⟩
    rw [hu.eq_of_name hy hx hname]
  · rintro ⟨name, hne, hgo, hback⟩
    obtain ⟨y, hy, rfl⟩ := hu.exists_of_reflTransGen_refersTo hx hgo
    refine ⟨y.2.table, fun htable => hne ?_, (hu.reflTransGen_awaits_iff hkeys hx hy).2 hgo,
      (hu.reflTransGen_awaits_iff hkeys hy hx).2 hback⟩
    rw [hu.eq_of_tableKey hkeys hy hx (congrArg Table.key htable)]

/-- Every cycle of dependencies is one of the tables of two or more models. -/
theorem two_le_length (hu : u.Of (Compiler.ofSettings settings : Compiler σ) r)
    (hkeys : (u.products.map (·.table.key)).Nodup) {cycle : List Table}
    (h : IsCycle (Awaits (u.products.map (·.table))) cycle) : 2 ≤ cycle.length := by
  match cycle, h with
  | [], h => exact absurd rfl h.ne_nil
  | [t], h =>
    obtain ⟨t', ht', hself⟩ := h.exists_rel (List.mem_singleton_self t)
    rw [List.mem_singleton.1 ht'] at hself
    obtain ⟨y, hy, rfl⟩ := hu.exists_of_awaits hkeys hself
    exact absurd rfl ((hu.awaits_iff hkeys hy hy).1 hself).1
  | _ :: _ :: _, _ => simp

end Units.Of

end Schemata.Emission
