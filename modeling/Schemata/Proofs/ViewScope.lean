import Schemata.Proofs.Emission
import Schemata.Proofs.EntityView

/-!
# References within views

A view reads tables under aliases, and its columns and conditions refer to columns under these
aliases. The tables are there when the view is created. The references are right as long as an alias
stands for one table, which only the aliases of hops back to the first table can spoil: they are
made up, while all others are names of tables.

## Main definitions

* `View.Denotes`: what an alias of a view stands for.
* `aliasesApart`: no made-up alias is the name of another table.
* `Viewed.stops`: where the paths of an entity pass.

## Main statements

* `Viewed.table_eq_of_asName`: with aliases apart, an alias stands for one table.
* `view_resolves`: the tables of a view come before it, and all its references resolve.
-/

namespace Schemata.Sql

/-- The tables that a view reads, with their schemas. -/
def View.tables (v : View) : List (String × String) :=
  (v.fromSchema, v.fromTable) :: v.joins.map fun j => (j.schema, j.table)

/-- The references in a view: the sources of its columns, and both sides of all conditions. -/
def View.references (v : View) : List String :=
  v.columns.map (·.source)
    ++ v.joins.flatMap fun j => j.conditions.flatMap fun c => [c.left, c.right]

/-- An alias of a view stands for a table. -/
def View.Denotes (v : View) (asName : String) (table : String × String) : Prop :=
  (asName = v.fromAlias ∧ table = (v.fromSchema, v.fromTable))
    ∨ ∃ j ∈ v.joins, j.asName = asName ∧ table = (j.schema, j.table)

end Schemata.Sql

namespace Schemata.Lowering

open Spec Sql Settings

/-! ## Stops -/

/-- No hop back to the first table has an alias that is the name of another model's table. -/
def aliasesApart (r : Registry) (e : Entity) : Bool :=
  e.fields.entries.all fun f => (trip? r e f).all fun t => t.hops.all fun h =>
    h.target.table != t.start.table || r.models.entries.all fun m =>
      decide (m.2 = h.target.model) || Naming.tableName m.2.name != h.target.asName

/-- What holds of each hop of a path: it starts where the path does or where a hop has led, and it
leads to a registered model under the alias of its relation. -/
theorem route?_mem {r : Registry} {rootTable : String} {x : Stop} {path : List String}
    {hops : List Hop} (h : route? r rootTable x path = some hops) {g : Hop} (hg : g ∈ hops) :
    (g.source = x ∨ ∃ g' ∈ hops, g.source = g'.target)
      ∧ (∃ name, r.models.get? name = some g.target.model)
      ∧ g.target.asName = joinAlias rootTable g.target.table g.relation := by
  induction path generalizing x hops with
  | nil =>
    cases h
    cases hg
  | cons name path ih =>
    simp only [route?, Option.bind_eq_bind, Option.bind_eq_some_iff, Option.pure_def,
      Option.some.injEq] at h
    obtain ⟨relation, -, target, htarget, rest, hrest, rfl⟩ := h
    rcases List.mem_cons.1 hg with rfl | hg
    · exact ⟨.inl rfl, ⟨_, htarget⟩, by simp only [Stop.table]⟩
    · obtain ⟨hsource, htail⟩ := ih hrest hg
      refine ⟨.inr ?_, htail⟩
      rcases hsource with hsource | ⟨g', hg', hsource⟩
      · exact ⟨_, List.mem_cons_self, hsource⟩
      · exact ⟨g', List.mem_cons_of_mem _ hg', hsource⟩

theorem lastStop_mem (x : Stop) (hops : List Hop) :
    lastStop x hops = x ∨ ∃ h ∈ hops, lastStop x hops = h.target := by
  induction hops generalizing x with
  | nil => exact .inl rfl
  | cons h rest ih =>
    right
    rcases ih h.target with heq | ⟨g, hg, heq⟩
    · exact ⟨h, List.mem_cons_self, heq⟩
    · exact ⟨g, List.mem_cons_of_mem _ hg, heq⟩

/-- The stops of the paths of an entity: the first, and the targets of all hops. -/
def stops (root : Model) (trips : List Trip) : List Stop :=
  Stop.first root :: (trips.flatMap (·.hops)).map (·.target)

theorem mem_stops {root : Model} {trips : List Trip} {x : Stop} :
    x ∈ stops root trips ↔ x = Stop.first root ∨ ∃ t ∈ trips, ∃ h ∈ t.hops, x = h.target := by
  simp only [stops, List.mem_cons, List.mem_map, List.mem_flatMap]
  grind

namespace Viewed

variable {s : EntitySettings} {r : Registry} {e : Entity} {root : Model} {trips : List Trip}
  {v : View}

theorem last_mem_stops (hv : Viewed s r e root trips v) {t : Trip} (ht : t ∈ trips) :
    t.last ∈ stops root trips := by
  rw [mem_stops]
  rcases lastStop_mem t.start t.hops with heq | ⟨h, hh, heq⟩
  · exact .inl (heq.trans (hv.along t ht).start_eq)
  · exact .inr ⟨t, ht, h, hh, heq⟩

theorem source_mem_stops (hv : Viewed s r e root trips v) {t : Trip} (ht : t ∈ trips) {h : Hop}
    (hh : h ∈ t.hops) : h.source ∈ stops root trips := by
  rw [mem_stops]
  rcases (route?_mem (hv.along t ht).hops_eq hh).1 with heq | ⟨g, hg, heq⟩
  · exact .inl (heq.trans (hv.along t ht).start_eq)
  · exact .inr ⟨t, ht, g, hg, heq⟩

theorem exists_of_mem_stops (hv : Viewed s r e root trips v) {x : Stop}
    (hx : x ∈ stops root trips) : ∃ name, r.models.get? name = some x.model := by
  rcases mem_stops.1 hx with rfl | ⟨t, ht, h, hh, rfl⟩
  · exact hv.root_mem
  · exact (route?_mem (hv.along t ht).hops_eq hh).2.1

/-- What was tested for the hops of all fields holds of the hops that are taken. -/
theorem of_all_hops (hv : Viewed s r e root trips v) {p : Trip → Hop → Bool}
    (hall : (e.fields.entries.all fun f => (trip? r e f).all fun t => t.hops.all (p t)) = true)
    {t : Trip} (ht : t ∈ trips) {h : Hop} (hh : h ∈ t.hops) : p t h = true := by
  obtain ⟨f, hf, htrip⟩ := exists_left_of_forall₂ hv.trips_eq ht
  have hfield := List.all_eq_true.1 hall f hf
  rw [htrip, Option.all_some] at hfield
  exact List.all_eq_true.1 hfield h hh

/-! ## What aliases stand for -/

theorem exists_hop_of_join (hv : Viewed s r e root trips v) {j : Join} (hj : j ∈ v.joins) :
    ∃ t ∈ trips, ∃ h ∈ t.hops, h.join s.models.schema = .ok j := by
  obtain ⟨h, hfind, hjoin⟩ := hv.joined.made j hj
  obtain ⟨t, ht, hh⟩ := List.mem_flatMap.1 (List.mem_of_find?_eq_some hfind)
  exact ⟨t, ht, h, hh, hjoin⟩

/-- An alias stands for the table of a stop that has it. -/
theorem exists_stop_of_denotes (hv : Viewed s r e root trips v) {asName : String}
    {table : String × String} (h : v.Denotes asName table) :
    ∃ x ∈ stops root trips, x.asName = asName ∧ table = (s.models.schema, x.table) := by
  rcases h with ⟨rfl, rfl⟩ | ⟨j, hj, rfl, rfl⟩
  · refine ⟨Stop.first root, mem_stops.2 (.inl rfl), hv.fromAlias_eq.symm, ?_⟩
    rw [hv.fromSchema_eq, hv.fromTable_eq]
  · obtain ⟨t, ht, h, hh, hjoin⟩ := hv.exists_hop_of_join hj
    obtain ⟨_, _, -, -, rfl⟩ := Hop.join_ok.1 hjoin
    exact ⟨h.target, mem_stops.2 (.inr ⟨t, ht, h, hh, rfl⟩), rfl, rfl⟩

/-- The alias of a stop stands for something. -/
theorem exists_denotes (hv : Viewed s r e root trips v) {x : Stop} (hx : x ∈ stops root trips) :
    ∃ table, v.Denotes x.asName table := by
  rcases mem_stops.1 hx with rfl | ⟨t, ht, h, hh, rfl⟩
  · exact ⟨_, .inl ⟨hv.fromAlias_eq.symm, rfl⟩⟩
  · obtain ⟨j, hj, hname⟩ := List.mem_map.1 (hv.joined.covers h (List.mem_flatMap.2 ⟨t, ht, hh⟩))
    exact ⟨_, .inr ⟨j, hj, hname, rfl⟩⟩

/-- With aliases apart, a table whose name is the alias of a hop back to the first table is the
first table. -/
theorem table_eq_first (hv : Viewed s r e root trips v) (ha : aliasesApart r e = true) {t : Trip}
    (ht : t ∈ trips) {h : Hop} (hh : h ∈ t.hops) (hback : h.target.table = (Stop.first root).table)
    {name : String} {m : Model} (hm : r.models.get? name = some m)
    (hname : Naming.tableName m.name = h.target.asName) :
    Naming.tableName m.name = (Stop.first root).table := by
  have hstart : t.start = Stop.first root := (hv.along t ht).start_eq
  have hhop := hv.of_all_hops ha ht hh
  rw [hstart, hback, bne_self_eq_false, Bool.false_or] at hhop
  have hmodel := List.all_eq_true.1 hhop (name, m) (NameMap.mem_entries_iff.2 hm)
  simp only [hname, bne_self_eq_false, Bool.or_false, decide_eq_true_eq] at hmodel
  rw [hmodel]
  exact hback

/-- The alias of a stop is the name of its table, unless the path is back at the first table; then
no other table has the alias for its name. -/
theorem asName_cases (hv : Viewed s r e root trips v) (ha : aliasesApart r e = true) {x : Stop}
    (hx : x ∈ stops root trips) :
    (x.table ≠ (Stop.first root).table ∧ x.asName = x.table)
    ∨ (x.table = (Stop.first root).table ∧ ∀ y ∈ stops root trips, y.table = x.asName →
      y.table = (Stop.first root).table) := by
  rcases mem_stops.1 hx with rfl | ⟨t, ht, h, hh, rfl⟩
  · exact .inr ⟨rfl, fun _ _ heq => heq⟩
  · obtain ⟨-, -, hname⟩ := route?_mem (hv.along t ht).hops_eq hh
    rw [(hv.along t ht).start_eq, joinAlias] at hname
    by_cases hback : h.target.table = (Stop.first root).table
    -- only here is the alias made up, and only here are aliases apart needed
    · refine .inr ⟨hback, fun y hy heq => ?_⟩
      obtain ⟨name, hm⟩ := hv.exists_of_mem_stops hy
      exact hv.table_eq_first ha ht hh hback hm heq
    · exact .inl ⟨hback, by rwa [if_neg hback] at hname⟩

/-- With aliases apart, an alias stands for one table. -/
theorem table_eq_of_asName (hv : Viewed s r e root trips v) (ha : aliasesApart r e = true)
    {x y : Stop} (hx : x ∈ stops root trips) (hy : y ∈ stops root trips)
    (h : x.asName = y.asName) : x.table = y.table := by
  rcases hv.asName_cases ha hx with ⟨hxne, hxname⟩ | ⟨hxeq, hxfree⟩ <;>
    rcases hv.asName_cases ha hy with ⟨hyne, hyname⟩ | ⟨hyeq, hyfree⟩
  · rw [← hxname, h, hyname]
  · exact absurd (hyfree x hx (hxname.symm.trans h)) hxne
  · exact absurd (hxfree y hy (hyname.symm.trans h.symm)) hyne
  · rw [hxeq, hyeq]

theorem denotes_iff (hv : Viewed s r e root trips v) (ha : aliasesApart r e = true) {x : Stop}
    (hx : x ∈ stops root trips) {table : String × String} :
    v.Denotes x.asName table ↔ table = (s.models.schema, x.table) := by
  have honly {table : String × String} (h : v.Denotes x.asName table) :
      table = (s.models.schema, x.table) := by
    obtain ⟨y, hy, hname, rfl⟩ := hv.exists_stop_of_denotes h
    rw [hv.table_eq_of_asName ha hy hx hname]
  refine ⟨honly, ?_⟩
  rintro rfl
  obtain ⟨table, htable⟩ := hv.exists_denotes hx
  exact honly htable ▸ htable

/-! ## References -/

/-- Every reference is to a field of a stop, under the alias of the stop. -/
theorem exists_of_mem_references (hv : Viewed s r e root trips v) {text : String}
    (h : text ∈ v.references) :
    ∃ x ∈ stops root trips, ∃ name field, x.model.fields.get? name = some field
      ∧ text = reference x.asName (Naming.columnName name) := by
  rcases List.mem_append.1 h with h | h
  · rw [hv.columns_eq, List.map_map] at h
    obtain ⟨t, ht, rfl⟩ := List.mem_map.1 h
    obtain ⟨field, hfield⟩ := NameMap.contains_iff.1 (hv.along t ht).terminal
    exact ⟨t.last, hv.last_mem_stops ht, _, field, hfield, rfl⟩
  · obtain ⟨j, hj, h⟩ := List.mem_flatMap.1 h
    obtain ⟨t, ht, g, hg, hjoin⟩ := hv.exists_hop_of_join hj
    obtain ⟨source, target, hsource, htarget, rfl⟩ := Hop.join_ok.1 hjoin
    simp only [List.flatMap_cons, List.flatMap_nil, List.append_nil, List.mem_pair] at h
    rcases h with rfl | rfl
    · exact ⟨g.source, hv.source_mem_stops ht hg, _, _, (singleKey_ok.1 hsource).2, rfl⟩
    · exact ⟨g.target, mem_stops.2 (.inr ⟨t, ht, g, hg, rfl⟩), _, _, (singleKey_ok.1 htarget).2,
        rfl⟩

end Viewed

end Schemata.Lowering

namespace Schemata.Emission

open Lowering Spec Sql

variable {σ : Type}

/-- A reference in a view, an alias and a column with a dot between, leads to a column of a model's
table, which is the one table that the alias stands for. -/
def RefersWithin (s : Schema) (v : View) (text : String) : Prop :=
  ∃ asName column e t, text = asName ++ "." ++ column
    ∧ (∀ table, v.Denotes asName table ↔ table = t.key)
    ∧ e.kind = .model ∧ s.table? e = some t ∧ column ∈ t.columns.map (·.name)

/-- The tables of every emitted view are tables of models that were written before it. With aliases
apart, all its references resolve. -/
theorem view_resolves {settings : Settings} {r : Registry} {w : Writers σ} {s : Schema} {st st' : σ}
    (h : ((Compiler.ofSettings settings).compileAll r w).Yields st s st') {e : Emitted} {v : View}
    (hv : s.view? e = some v) :
    e ∈ s.order
      ∧ (∀ table ∈ v.tables, table.1 = settings.models.schema
        ∧ ∃ e' t, e'.kind = .model ∧ s.table? e' = some t ∧ t.key = table ∧ s.Before e' e)
      ∧ ∃ entity, r.entities.get? e.source = some entity
        ∧ (aliasesApart r entity = true → ∀ text ∈ v.references, RefersWithin s v text) := by
  have : Nonempty σ := ⟨st⟩
  obtain ⟨u, tables, bytes, hu, hl, -⟩ := compileAll_layout h
  obtain ⟨name, hmem, rfl⟩ := hl.view?_eq_some.1 hv
  obtain ⟨entity, hentity, hok⟩ := Compiler.entity_eq_pure.1 (hu.view _ hmem)
  obtain ⟨root, trips, hviewed⟩ := compileEntity_ok hok
  -- every stop has its table in the schema, since its model is registered
  have hstop {x : Stop} (hx : x ∈ stops root trips) :
      ∃ model ones, ⟨tableOf settings.models x.model ones, .model model⟩ ∈ tables := by
    obtain ⟨model, hmodel⟩ := hviewed.exists_of_mem_stops hx
    obtain ⟨ones, htable⟩ := hl.exists_tableOf hu hmodel
    exact ⟨model, ones, htable⟩
  refine ⟨?_, fun table htable => ?_, entity, hentity, fun ha text htext => ?_⟩
  · rw [hl.order_eq]
    exact List.mem_map_of_mem (Units.view_mem_pieces.2 hmem)
  · obtain ⟨asName, hdenotes⟩ : ∃ asName, v.Denotes asName table := by
      rcases List.mem_cons.1 htable with rfl | htable
      · exact ⟨v.fromAlias, .inl ⟨rfl, rfl⟩⟩
      · obtain ⟨j, hj, rfl⟩ := List.mem_map.1 htable
        exact ⟨j.asName, .inr ⟨j, hj, rfl, rfl⟩⟩
    obtain ⟨x, hx, -, rfl⟩ := hviewed.exists_stop_of_denotes hdenotes
    obtain ⟨model, ones, htable⟩ := hstop hx
    exact ⟨rfl, _, _, rfl, hl.table?_eq_some.2 ⟨_, htable, rfl, rfl⟩, rfl,
      hl.before_view htable hmem⟩
  · obtain ⟨x, hx, field, _, hfield, rfl⟩ := hviewed.exists_of_mem_references htext
    obtain ⟨model, ones, htable⟩ := hstop hx
    exact ⟨x.asName, Naming.columnName field, _, _, rfl, fun _ => hviewed.denotes_iff ha hx, rfl,
      hl.table?_eq_some.2 ⟨_, htable, rfl, rfl⟩, columnName_mem_tableOf hfield⟩

theorem view_resolves_sample : ∃ s v, Sample.compilation.Yields () s ()
    ∧ s.view? Sample.employees = some v ∧ aliasesApart Sample.registry Sample.employee = true
    ∧ ∀ text ∈ v.references, RefersWithin s v text := by
  obtain ⟨s, hs, -, ⟨v, hv⟩, -⟩ := Sample.exists_yields
  have hapart : aliasesApart Sample.registry Sample.employee = true := by decide +kernel
  obtain ⟨-, -, entity, hentity, hresolve⟩ := view_resolves hs hv
  obtain rfl : entity = Sample.employee := (Option.some.inj hentity).symm
  exact ⟨s, v, hs, hv, hapart, hresolve hapart⟩

end Schemata.Emission
