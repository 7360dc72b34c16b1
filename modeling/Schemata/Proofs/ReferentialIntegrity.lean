import Schemata.Proofs.Emission

/-!
# Referential integrity

The side that refers and the side that is referred to are lowered apart from each other: a
reference works out the name, the key and the type of a table that another model becomes. They
agree, and tables are emitted in an order in which a script can create them.

## Main definitions

* `Resolves`: a foreign key leads to one column of one emitted table.

## Main statements

* `foreignKey_resolves`: every foreign key of every emitted table resolves.
-/

namespace Schemata.Emission

open Lowering Spec Sql

variable {σ : Type}

/-- The foreign key `k` of the table `t` under the entry `e` leads from the column `d` to the column
`c` of the table `u` under the entry `e'`. -/
structure Resolves (s : Schema) (e : Emitted) (t : Table) (k : ForeignKey) (e' : Emitted)
    (u : Table) (c d : Column) : Prop where
  /-- Of all emitted tables one has the schema and the name that the key refers to. -/
  only : s.order.filter (fun x => (s.table? x).map Table.key == some (k.refSchema, k.refTable))
    = [e']
  table_eq : s.table? e' = some u
  /-- It is the table of the key itself, or was written before. -/
  before : e' = e ∨ s.Before e' e
  refColumns_eq : k.refColumns = [c.name]
  /-- The column that is referred to is the only one of its primary key. -/
  primary_eq : u.columns.filter (·.primary) = [c]
  columns_eq : k.columns = [d.name]
  column_eq : t.columns.filter (·.name == d.name) = [d]
  type_eq : d.type = c.type.referring

namespace Layout

variable {u : Units} {tables : List Product} {bytes : List Bytes} {s : Schema}

theorem compileModel_of_foreignKey [Nonempty σ] {settings : Settings} {r : Registry}
    (hl : Layout u tables bytes s)
    (hu : u.Of (Compiler.ofSettings settings : Compiler σ) r) {p : Product} (hp : p ∈ tables)
    {k : ForeignKey} (hk : k ∈ p.table.foreignKeys) :
    ∃ name m ts, r.models.get? name = some m ∧ compileModel settings.models r m = .ok ts
      ∧ p.table ∈ ts.table :: ts.junctions :=
  hu.compileModel_of_foreignKey (hl.perm.mem_iff.1 hp) hk

/-- Of the emitted tables, the key of one selects its entry. -/
theorem filter_key (hl : Layout u tables bytes s) {q : Product} (hq : q ∈ tables) :
    s.order.filter (fun x => (s.table? x).map Table.key == some q.table.key)
      = [(Piece.table q).entry] := by
  have hfound : s.table? (Piece.table q).entry = some q.table :=
    hl.table?_eq_some.2 ⟨q, hq, rfl, rfl⟩
  refine filter_eq_singleton (hl.order_eq ▸ hl.nodup_entries) ?_ ?_ ?_
  · rw [hl.order_eq]
    exact List.mem_map_of_mem (Units.table_mem_pieces.2 hq)
  · simp [hfound]
  · intro e _ he
    obtain ⟨t, ht, hkey⟩ := Option.map_eq_some_iff.1 (beq_iff_eq.1 he)
    obtain ⟨p, hp, rfl, rfl⟩ := hl.table?_eq_some.1 ht
    rw [hl.eq_of_key hp hq hkey]

/-- What a foreign key of a table refers to is that table, or comes before it. -/
theorem before_of_foreignKey (hl : Layout u tables bytes s) {p q : Product}
    (hp : p ∈ tables) (hq : q ∈ tables) {k : ForeignKey} (hk : k ∈ p.table.foreignKeys)
    (hown : (k.schema, k.table) = p.table.key) (href : (k.refSchema, k.refTable) = q.table.key) :
    (Piece.table q).entry = (Piece.table p).entry
      ∨ s.Before (Piece.table q).entry (Piece.table p).entry := by
  by_cases hself : k.isSelfReference = true
  · left
    have hsame : (k.refSchema, k.refTable) = (k.schema, k.table) := by
      rw [ForeignKey.isSelfReference, Bool.and_eq_true, beq_iff_eq, beq_iff_eq] at hself
      rw [hself.1, hself.2]
    rw [hl.eq_of_key hq hp (href.symm.trans (hsame.trans hown))]
  · right
    refine hl.before_of_dependsOn hp hq (List.any_eq_true.2 ⟨k, hk, ?_⟩)
    obtain ⟨hschema, hname⟩ := Prod.mk.inj href
    simp [hself, hschema, hname]

end Layout

/-- Every foreign key of every emitted table resolves. -/
theorem foreignKey_resolves {settings : Settings} {r : Registry} {w : Writers σ} {s : Schema}
    {st st' : σ} (h : ((Compiler.ofSettings settings).compileAll r w).Yields st s st')
    {e : Emitted} {t : Table} {k : ForeignKey} (ht : s.table? e = some t)
    (hk : k ∈ t.foreignKeys) : e ∈ s.order ∧ ∃ e' u c d, Resolves s e t k e' u c d := by
  have : Nonempty σ := ⟨st⟩
  obtain ⟨u, tables, bytes, hu, hl, -⟩ := compileAll_layout h
  obtain ⟨p, hp, rfl, rfl⟩ := hl.table?_eq_some.1 ht
  obtain ⟨name, m, ts, hm, hok, hmem⟩ := hl.compileModel_of_foreignKey hu hp hk
  -- the referent is registered, so its table is emitted as well
  obtain ⟨x, hx, hregistered⟩ := exists_refers hok hmem hk
  obtain ⟨name', hname'⟩ : ∃ name', r.models.get? name' = some x.model := by
    rcases hregistered with heq | hother
    · exact ⟨name, heq ▸ hm⟩
    · exact hother
  obtain ⟨ones, hq⟩ := hl.exists_tableOf hu hname'
  obtain ⟨d, hd, hcolumns, htype⟩ := hx.column
  have href : (k.refSchema, k.refTable) = (tableOf settings.models x.model ones).key :=
    Prod.ext hx.refSchema_eq hx.refTable_eq
  refine ⟨?_, _, _, ownColumn settings.models x.model (x.key, x.field), d, {
      only := ?_
      table_eq := hl.table?_eq_some.2 ⟨_, hq, rfl, rfl⟩
      before := hl.before_of_foreignKey hp hq hk (Prod.ext hx.schema_eq hx.table_eq) href
      refColumns_eq := by rw [hx.refColumns_eq, name_ownColumn]
      primary_eq := filter_primary_tableOf hx.valid.key_eq
      columns_eq := hcolumns
      column_eq := filter_name_eq (compileModel_table hok hmem).2 hd
      type_eq := ?_ }⟩
  · rw [hl.order_eq]
    exact List.mem_map_of_mem (Units.table_mem_pieces.2 hp)
  · rw [href]
    exact hl.filter_key hq
  · rw [htype, type_ownColumn]
    exact TypeMap.get?_reference (get?_own _ _) hx.valid.type_eq

theorem foreignKey_resolves_sample : ∃ s t k, Sample.compilation.Yields () s ()
    ∧ s.table? Sample.people = some t ∧ k ∈ t.foreignKeys ∧ Sample.people ∈ s.order
    ∧ ∃ e' u c d, Resolves s Sample.people t k e' u c d := by
  obtain ⟨s, hs, ⟨t, k, ht, hk⟩, -⟩ := Sample.exists_yields
  exact ⟨s, t, k, hs, ht, hk, foreignKey_resolves hs ht hk⟩

end Schemata.Emission
