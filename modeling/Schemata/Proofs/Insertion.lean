import Schemata.Proofs.Dependencies
import Schemata.Proofs.Emission
import Schemata.Proofs.RegistryGrowth

/-!
# Adding a model

A model of a new name adds its own tables to what a registry compiles to, and changes nothing else.
The other units ask the registry for what they need and do not see the new model. No table of theirs
depends on a new one, so they keep their order among each other although the new tables stand
between them. And what a writer of scripts makes of a piece depends on the piece alone.

## Main definitions

* `Writers.sql`: writers of scripts in given styles.
* `Emitted.isOf`: an entry is that of a table of the given model.

## Main statements

* `Units.mem_products_insertModel`: the tables without those of the new model.
* `Layout.pieces_insertModel`: the pieces without those of the new model.
* `compileAll_insertModel`: two compilations, with and without the model.
-/

namespace Schemata.Emission

open Lowering Spec Sql

variable {σ : Type}

/-! ## Writers of scripts -/

/-- Writers of scripts in the given styles; the one for structures may be missing. -/
def Writers.sql (models enumerations entities : ScriptStyle) (structures : Option ScriptStyle) :
    Writers σ where
  models := .sql models
  enumerations := .sql enumerations
  entities := .sql entities
  structures := structures.map fun style => .sql style

/-- What a writer of scripts makes of a piece depends on the piece alone. -/
theorem Piece.exists_write_sql (models enumerations entities : ScriptStyle)
    (structures : Option ScriptStyle) : ∃ text : Piece → Except CompileError Bytes,
      ∀ p, p.write (Writers.sql models enumerations entities structures : Writers σ)
        = Step.ofExcept (text p) := by
  have hpiece (p : Piece) : ∃ x : Except CompileError Bytes,
      p.write (Writers.sql models enumerations entities structures : Writers σ)
        = Step.ofExcept x := by
    match p with
    | .table ⟨t, .model _⟩ => exact ⟨.ok (models.table t).toUTF8, rfl⟩
    | .table ⟨t, .enumeration _ seed⟩ =>
      exact ⟨.ok ((enumerations.table t).toUTF8 ++ seed.script.toUTF8), rfl⟩
    | .table ⟨t, .structures⟩ =>
      cases structures with
      | none => exact ⟨.error .missingStructureWriter, rfl⟩
      | some style => exact ⟨.ok (style.table t).toUTF8, rfl⟩
    | .view _ v => exact ⟨.ok (entities.view v).toUTF8, rfl⟩
  choose text htext using hpiece
  exact ⟨text, htext⟩

/-- Where what is written depends on the piece alone, a piece is found with what is written for
it. -/
theorem Layout.piece?_eq_some_iff {u : Units} {tables : List Product} {bytes : List Bytes}
    {s : Schema} (hl : Layout u tables bytes s) {w : Writers σ}
    {text : Piece → Except CompileError Bytes} (hw : ∀ p, p.write w = Step.ofExcept (text p))
    {st st' : σ} (hbytes : ((u.pieces tables).mapM (Piece.write w)).Yields st bytes st')
    {e : Emitted} {x : Piece × Bytes} : s.piece? e = some x ↔
      (x.1 ∈ u.pieces tables ∧ text x.1 = .ok x.2) ∧ e = x.1.entry := by
  have hpiece (p : Piece) (b : Bytes) (st st' : σ) :
      (p.write w).Yields st b st' ↔ text p = .ok b ∧ st = st' := by
    rw [hw, Step.yields_ofExcept]
  rw [hl.piece?_eq_some, mem_zip_of_forall₂ ((Step.yields_mapM hpiece).1 hbytes).1]

/-! ## Units with and without a model -/

/-- Units of the same names are the same, when each is what a step makes of its name. -/
theorem eq_of_names {α : Type} [Nonempty σ] (f : String → Step σ α) {xs ys : List (String × α)}
    (hnames : xs.map (·.1) = ys.map (·.1)) (hxs : ∀ x ∈ xs, f x.1 = pure x.2)
    (hys : ∀ y ∈ ys, f y.1 = pure y.2) : xs = ys := by
  refine eq_of_map_eq hnames fun x hx y hy hname => Prod.ext hname (Step.pure_inj (σ := σ).1 ?_)
  rw [← hxs x hx, ← hys y hy, hname]

namespace Units

variable {settings : Settings} {r : Registry} {m : Model} {u u' : Units} [Nonempty σ]

section Insertion

variable (hnew : r.models.get? m.name = none)
  (hu : u.Of (Compiler.ofSettings settings : Compiler σ) r)
  (hu' : u'.Of (Compiler.ofSettings settings : Compiler σ) (r.insertModel m))

include hu hu'

theorem lookups_insertModel : u'.lookups = u.lookups :=
  eq_of_names ((Compiler.ofSettings settings : Compiler σ).enumeration r)
    (hu'.lookup_names.trans hu.lookup_names.symm) hu'.lookup hu.lookup

theorem structures_insertModel : u'.structures = u.structures :=
  Step.pure_inj.1 (hu'.structures.symm.trans hu.structures)

include hnew

theorem views_insertModel : u'.views = u.views := by
  refine eq_of_names ((Compiler.ofSettings settings : Compiler σ).entity (r.insertModel m))
    (hu'.view_names.trans hu.view_names.symm) hu'.view fun x hx => ?_
  obtain ⟨e, he, hok⟩ := Compiler.entity_eq_pure.1 (hu.view x hx)
  exact Compiler.entity_eq_pure.2
    ⟨e, he, compileEntity_mono (Registry.modelsIn_insertModel hnew) hok⟩

theorem models_insertModel : u'.models.filter (·.1 != m.name) = u.models := by
  refine eq_of_names ((Compiler.ofSettings settings : Compiler σ).model (r.insertModel m)) ?_
    (fun x hx => hu'.model x (List.mem_of_mem_filter hx)) fun x hx => ?_
  · have hnames : (u'.models.map (·.1)).filter (· != m.name) = u.models.map (·.1) := by
      rw [hu'.model_names, hu.model_names]
      exact NameMap.filter_names_insert m hnew
    rwa [List.filter_map] at hnames
  · obtain ⟨m', hm', hok⟩ := Compiler.model_eq_pure.1 (hu.model x hx)
    have hin := Registry.modelsIn_insertModel hnew
    exact Compiler.model_eq_pure.2 ⟨m', hin _ _ hm', compileModel_mono hin hok⟩

/-- The tables of a registry are those of the larger one without those of the new model. -/
theorem mem_products_insertModel {p : Product} :
    p ∈ u.products ↔ p ∈ u'.products ∧ p.source ≠ .model m.name := by
  have hmodels (x : String × ModelTables) : x ∈ u.models ↔ x ∈ u'.models ∧ x.1 ≠ m.name := by
    simp [← models_insertModel hnew hu hu']
  simp only [Units.products, List.mem_append, List.mem_map, List.mem_flatMap, Option.mem_toList,
    lookups_insertModel hu hu', structures_insertModel hu hu', hmodels]
  constructor
  · rintro ((⟨x, hx, rfl⟩ | ⟨x, ⟨hx, hne⟩, t, ht, rfl⟩) | ⟨t, ht, rfl⟩)
    · exact ⟨.inl (.inl ⟨x, hx, rfl⟩), Source.noConfusion⟩
    · exact ⟨.inl (.inr ⟨x, hx, t, ht, rfl⟩), fun h => hne (Source.model.inj h)⟩
    · exact ⟨.inr ⟨t, ht, rfl⟩, Source.noConfusion⟩
  · rintro ⟨(⟨x, hx, rfl⟩ | ⟨x, hx, t, ht, rfl⟩) | ⟨t, ht, rfl⟩, hne⟩
    · exact .inl (.inl ⟨x, hx, rfl⟩)
    · exact .inl (.inr ⟨x, ⟨hx, fun h => hne (congrArg Source.model h)⟩, t, ht, rfl⟩)
    · exact .inr ⟨t, ht, rfl⟩

/-- The tables from before are among those of the larger registry. -/
theorem mem_tables_insertModel {t : Table} (ht : t ∈ u.products.map (·.table)) :
    t ∈ u'.products.map (·.table) := by
  obtain ⟨p, hp, rfl⟩ := List.mem_map.1 ht
  exact List.mem_map.2 ⟨p, ((mem_products_insertModel hnew hu hu').1 hp).1, rfl⟩

/-- What a table from before depends on is the table of a model from before. -/
theorem mem_of_dependsOn_insertModel (hkeys : ((u'.products.map (·.table)).map Table.key).Nodup)
    {t v : Table} (ht : t ∈ u.products.map (·.table)) (hv : v ∈ u'.products.map (·.table))
    (hd : t.dependsOn v = true) : v ∈ u.products.map (·.table) := by
  obtain ⟨p, hp, rfl⟩ := List.mem_map.1 ht
  obtain ⟨y, hy, hkey⟩ := hu.exists_of_dependsOn hp hd
  have hmem := table_mem hy
  rwa [List.inj_on_of_nodup_map hkeys hv (mem_tables_insertModel hnew hu hu' hmem) hkey]

end Insertion

end Units

/-! ## Schemas with and without a model -/

/-- The entry is that of a table of the model of a name. -/
def Emitted.isOf (name : String) (e : Emitted) : Bool := e.kind == .model && e.source == name

theorem isOf_entry_table {name : String} {p : Product} :
    (Piece.table p).entry.isOf name = true ↔ p.source = .model name := by
  obtain ⟨t, source⟩ := p
  cases source <;> simp [Piece.entry, Emitted.isOf, Source.kind, Source.name]

namespace Layout

variable {settings : Settings} {r : Registry} {m : Model} {u u' : Units}
  {tables tables' : List Product} {bytes bytes' : List Bytes} {s s' : Schema} [Nonempty σ]
  (hnew : r.models.get? m.name = none)
  (hu : u.Of (Compiler.ofSettings settings : Compiler σ) r)
  (hu' : u'.Of (Compiler.ofSettings settings : Compiler σ) (r.insertModel m))
  (hl : Layout u tables bytes s) (hl' : Layout u' tables' bytes' s')

include hnew hu hu' hl hl'

/-- The tables from before stand among the new ones in their order. -/
theorem tables_insertModel :
    tables'.filter (fun p => !(Piece.table p).entry.isOf m.name) = tables := by
  have hsub {p : Product} : p ∈ tables ↔ p ∈ tables' ∧ p.source ≠ .model m.name := by
    rw [hl.perm.mem_iff, hl'.perm.mem_iff]
    exact Units.mem_products_insertModel hnew hu hu'
  have hkeys := (inOrder_ok hl'.inOrder_eq).2.1
  have horder := inOrder_filter hl.inOrder_eq hl'.inOrder_eq
    (fun t => decide (t ∈ u.products.map (·.table)))
    (fun t => ⟨fun ht => ⟨Units.mem_tables_insertModel hnew hu hu' ht, decide_eq_true ht⟩,
      fun ht => of_decide_eq_true ht.2⟩)
    fun t ht v hv => Units.mem_of_dependsOn_insertModel hnew hu hu' hkeys ht hv
  rw [List.filter_map] at horder
  have hfilter := eq_of_map_eq horder fun p hp q hq heq =>
    hl'.eq_of_key (List.mem_of_mem_filter hp) (hsub.1 hq).1 (congrArg Table.key heq)
  refine Eq.trans (List.filter_congr fun p hp => ?_) hfilter
  rw [Bool.eq_iff_iff, Bool.not_eq_true', ← Bool.not_eq_true, isOf_entry_table,
    Function.comp_apply, decide_eq_true_iff]
  constructor
  · intro hne
    exact List.mem_map.2 ⟨p, hl.perm.mem_iff.1 (hsub.2 ⟨hp, hne⟩), rfl⟩
  · intro hmem
    obtain ⟨q, hq, heq⟩ := List.mem_map.1 hmem
    obtain ⟨hq', hne⟩ := hsub.1 (hl.perm.mem_iff.2 hq)
    rwa [← hl'.eq_of_key hq' hp (congrArg Table.key heq)]

/-- The pieces from before are those of the larger registry without those of the new model. -/
theorem pieces_insertModel :
    (u'.pieces tables').filter (fun p => !p.entry.isOf m.name) = u.pieces tables := by
  have hviews : (u'.views.map fun x => Piece.view x.1 x.2).filter (fun p => !p.entry.isOf m.name)
      = u.views.map fun x => Piece.view x.1 x.2 := by
    rw [Units.views_insertModel hnew hu hu']
    refine List.filter_eq_self.2 fun p hp => ?_
    obtain ⟨x, -, rfl⟩ := List.mem_map.1 hp
    rfl
  rw [Units.pieces, List.filter_append, hviews, List.filter_map, Units.pieces]
  exact congrArg (List.map _ · ++ _) (tables_insertModel hnew hu hu' hl hl')

end Layout

/-- Adding a model of a new name only adds entries, those of its own tables. The entries from before
keep their order, and stand for the same objects with the same bytes. -/
theorem compileAll_insertModel {settings : Settings} {r : Registry} {m : Model}
    {models enumerations entities : ScriptStyle} {structures : Option ScriptStyle} {s s' : Schema}
    {st₀ st₁ st₂ st₃ : σ} (hnew : r.models.get? m.name = none)
    (h : ((Compiler.ofSettings settings).compileAll r
      (Writers.sql models enumerations entities structures)).Yields st₀ s st₁)
    (h' : ((Compiler.ofSettings settings).compileAll (r.insertModel m)
      (Writers.sql models enumerations entities structures)).Yields st₂ s' st₃) :
    s.order.Sublist s'.order
      ∧ s'.order.filter (fun e => !(e.kind == .model && e.source == m.name)) = s.order
      ∧ (∀ e ∈ s.order, ∃ x, s.piece? e = some x)
      ∧ ∀ e x, s.piece? e = some x → s'.piece? e = some x := by
  have : Nonempty σ := ⟨st₀⟩
  obtain ⟨u, tables, bytes, hu, hl, hbytes⟩ := compileAll_layout h
  obtain ⟨u', tables', bytes', hu', hl', hbytes'⟩ := compileAll_layout h'
  obtain ⟨text, htext⟩ := Piece.exists_write_sql (σ := σ) models enumerations entities structures
  have hpieces := Layout.pieces_insertModel hnew hu hu' hl hl'
  have horder : s'.order.filter (fun e => !e.isOf m.name) = s.order := by
    rw [hl'.order_eq, hl.order_eq, List.filter_map, ← hpieces]
    rfl
  refine ⟨horder ▸ List.filter_sublist, horder, ?_, ?_⟩
  · intro e he
    rw [hl.order_eq] at he
    obtain ⟨p, hp, rfl⟩ := List.mem_map.1 he
    obtain ⟨b, hb⟩ := hl.exists_piece?_iff.2 ⟨hp, rfl⟩
    exact ⟨_, hb⟩
  · intro e x hx
    obtain ⟨⟨hmem, hok⟩, rfl⟩ := (hl.piece?_eq_some_iff htext hbytes).1 hx
    rw [← hpieces] at hmem
    exact (hl'.piece?_eq_some_iff htext hbytes').2 ⟨⟨List.mem_of_mem_filter hmem, hok⟩, rfl⟩

namespace Sample

/-- Badges have a holder among people and are valid for many companies. -/
def badge : Model :=
  model "Badge" [("Company", ⟨.forMany, "Company", none⟩),
    ("Holder", ⟨.forOne, "Holder", some "Person"⟩)]

/-- The sample compiles with badges too. -/
theorem exists_yields_badge : ∃ s, ((Compiler.ofSettings settings : Compiler Unit).compileAll
    (registry.insertModel badge) {}).Yields () s () :=
  Step.exists_yields_of_isOk (by decide +kernel)

end Sample

/-- The tables of badges stand between those from before, and change none of them. -/
theorem compileAll_insertModel_badge :
    Sample.registry.models.get? Sample.badge.name = none
    ∧ ∃ s s', Sample.compilation.Yields () s ()
      ∧ ((Compiler.ofSettings Sample.settings).compileAll
        (Sample.registry.insertModel Sample.badge) {}).Yields () s' ()
      ∧ s.order.Sublist s'.order
      ∧ s'.order.filter (fun e => !(e.kind == .model && e.source == Sample.badge.name)) = s.order
      ∧ (∀ e ∈ s.order, ∃ x, s.piece? e = some x)
      ∧ ∀ e x, s.piece? e = some x → s'.piece? e = some x := by
  have hnew : Sample.registry.models.get? Sample.badge.name = none := by decide +kernel
  have hdefault : ({} : Writers Unit) = Writers.sql {} {} {} (some {}) := rfl
  obtain ⟨s, hs, -⟩ := Sample.exists_yields
  obtain ⟨s', hs'⟩ := Sample.exists_yields_badge
  refine ⟨hnew, s, s', hs, hs', ?_⟩
  rw [Sample.compilation, hdefault] at hs
  rw [hdefault] at hs'
  exact compileAll_insertModel hnew hs hs'

end Schemata.Emission
