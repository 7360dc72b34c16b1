import Schemata.Proofs.ModelTables
import Schemata.Proofs.Naming.Separator
import Schemata.Proofs.Order
import Schemata.Proofs.Pieces
import Mathlib.Data.List.Perm.Basic

/-!
# Whole compilations

A compilation without hooks that succeeds has taken every part of the registry on its own, put the
tables in order, and written each of them, and then each view, as a piece. That tables find their
sources again, although these are looked up by one text for schema and name, rests on two facts: no
two tables share schema and name, and no table has a dot in its name.

## Main definitions

* `Units`: what the parts of a registry become, each on its own.
* `Compiler.parts`: the tables and views of all parts.
* `Schema.Before`: an entry comes before another.
* `Layout`: how the units of a compilation stand in the schema that it emits.

## Main statements

* `Compiler.compileAll_yields`: the units of a compilation, before anything is written.
* `Compiler.compileAll_eq`: a compilation whose units are known.
* `compileAll_layout`: every compilation that succeeds has a layout.
* `Layout.table?_eq_some`, `Layout.view?_eq_some`: the tables and views of a schema.
* `Layout.before_of_dependsOn`, `Layout.before_view`: what comes first.
-/

namespace Schemata.Lowering

open Spec Sql Settings

theorem compileEnumeration_ok {s : EnumerationSettings} {e : Enumeration} {t : LookupTable}
    (h : compileEnumeration s e = .ok t) :
    t.table = entryTable s.schema (Naming.tableName e.name) := by
  rw [compileEnumeration, bind_eq_ok] at h
  obtain ⟨-, -, h⟩ := h
  rw [← pure_eq_ok.1 h]

theorem compileStructures_ok {s : StructureSettings} {t? : Option Table}
    (h : compileStructures s = .ok t?) :
    t? = if s.persistent then some (structureTable s) else none := by
  unfold compileStructures at h
  split at h
  · rename_i hp
    obtain ⟨-, -, h⟩ := bind_eq_ok.1 h
    rw [if_pos hp, ← pure_eq_ok.1 h]
  · rename_i hp
    cases h
    rw [if_neg hp]

/-- No table of a model has a separator in its name. -/
theorem compileModel_notMem {c : Char} (hc : c ∈ Text.separators) {s : ModelSettings} {r : Registry}
    {m : Model} {ts : ModelTables} {t : Table} (h : compileModel s r m = .ok ts)
    (ht : t ∈ ts.table :: ts.junctions) : c ∉ t.name.toList := by
  obtain ⟨ones, many, hl⟩ := compileModel_ok h
  rcases List.mem_cons.1 ht with rfl | ht
  · rw [hl.table_eq]
    exact Naming.notMem_tableName hc m.name
  · obtain ⟨l, -, x, -, -, rfl⟩ := hl.exists_junctionOf ht
    exact Naming.notMem_junctionTableName hc _ _

end Schemata.Lowering

namespace Schemata.Emission

open Lowering Spec Sql

variable {σ : Type}

/-! ## Units -/

/-- What the parts of a registry become, each with the name of its part. -/
structure Units where
  lookups : List (String × LookupTable)
  models : List (String × ModelTables)
  structures : Option Table
  views : List (String × View)

/-- The tables among the units, with their sources. -/
def Units.products (u : Units) : List Product :=
  u.lookups.map (fun x => ⟨x.2.table, .enumeration x.1 x.2.seed⟩)
    ++ u.models.flatMap (fun x => (x.2.table :: x.2.junctions).map fun t => ⟨t, .model x.1⟩)
    ++ u.structures.toList.map fun t => ⟨t, .structures⟩

theorem Units.table_mem_products {u : Units} {x : String × ModelTables} (hx : x ∈ u.models)
    {t : Table} (ht : t ∈ x.2.table :: x.2.junctions) : ⟨t, .model x.1⟩ ∈ u.products := by
  simp only [Units.products, List.mem_append, List.mem_flatMap]
  exact .inl (.inr ⟨x, hx, List.mem_map_of_mem ht⟩)

/-- The pieces that are written for the units, when the tables come in the given order. -/
def Units.pieces (u : Units) (tables : List Product) : List Piece :=
  tables.map .table ++ u.views.map fun x => .view x.1 x.2

@[simp] theorem Units.table_mem_pieces {u : Units} {tables : List Product} {p : Product} :
    Piece.table p ∈ u.pieces tables ↔ p ∈ tables := by
  simp [Units.pieces]

@[simp] theorem Units.view_mem_pieces {u : Units} {tables : List Product} {name : String}
    {v : View} : Piece.view name v ∈ u.pieces tables ↔ (name, v) ∈ u.views := by
  simp [Units.pieces]

/-- The units are those of a registry: one for each part, in the order of names, and each is what
the compiler makes of that part alone, from every state and leaving it as it is. -/
structure Units.Of (c : Compiler σ) (r : Registry) (u : Units) : Prop where
  lookup_names : u.lookups.map (·.1) = r.enumerations.names
  model_names : u.models.map (·.1) = r.models.names
  view_names : u.views.map (·.1) = r.entities.names
  lookup : ∀ x ∈ u.lookups, c.enumeration r x.1 = pure x.2
  model : ∀ x ∈ u.models, c.model r x.1 = pure x.2
  view : ∀ x ∈ u.views, c.entity r x.1 = pure x.2
  structures : c.structureTable = pure u.structures

namespace Compiler

section Units

variable (settings : Settings) (r : Registry)

theorem modelUnit_ofSettings (m : Model) : (ofSettings settings : Compiler σ).modelUnit r m
    = Step.ofExcept (compileModel settings.models r m) :=
  UnitHooks.run_none ..

theorem enumerationUnit_ofSettings (e : Enumeration) :
    (ofSettings settings : Compiler σ).enumerationUnit e
      = Step.ofExcept (compileEnumeration settings.enumerations e) :=
  UnitHooks.run_none ..

theorem entityUnit_ofSettings (e : Entity) : (ofSettings settings : Compiler σ).entityUnit r e
    = Step.ofExcept (compileEntity settings.linked.entities r e) :=
  UnitHooks.run_none ..

theorem structureTable_ofSettings : (ofSettings settings : Compiler σ).structureTable
    = Step.ofExcept (compileStructures settings.structures) :=
  UnitHooks.run_none ..

end Units

/-- A traversal of the parts of a kind, with what each of them becomes. -/
theorem yields_units {α β γ : Type} {kind : Kind} {parts : NameMap α} {unit : α → Step σ γ}
    {g : α → Except CompileError γ} (f : String → γ → β) {bs : List β} {st st' : σ}
    (hunit : ∀ a, unit a = Step.ofExcept (g a))
    (h : (parts.entries.mapM fun e : String × α => do
      let c ← Step.inUnit kind e.1 (unit e.2)
      return f e.1 c).Yields st bs st') :
    st = st' ∧ ∃ xs : List (String × γ), xs.map (·.1) = parts.names
      ∧ (∀ x ∈ xs, ∃ a, parts.get? x.1 = some a ∧ g a = .ok x.2)
      ∧ bs = xs.map fun x => f x.1 x.2 := by
  have hpart (e : String × α) (b : β) (st st' : σ) :
      (do let c ← Step.inUnit kind e.1 (unit e.2); return f e.1 c : Step σ β).Yields st b st'
        ↔ (∃ c, g e.2 = .ok c ∧ b = f e.1 c) ∧ st = st' := by
    simp only [Step.yields_bind, Step.yields_inUnit, hunit, Step.yields_ofExcept, Step.yields_pure]
    grind
  obtain ⟨hparts, rfl⟩ := (Step.yields_mapM hpart).1 h
  obtain ⟨xs, hentries, hxs, rfl⟩ := forall₂_exists hparts
  refine ⟨rfl, xs.map fun x => (x.1.1, x.2), ?_, ?_, by simp⟩
  · simp [NameMap.names, ← hentries]
  · rintro x hx
    obtain ⟨y, hy, rfl⟩ := List.mem_map.1 hx
    have hentry : y.1 ∈ parts.entries := hentries ▸ List.mem_map_of_mem hy
    exact ⟨y.1.2, NameMap.mem_entries_iff.1 hentry, hxs y hy⟩

/-- A traversal of the parts of a kind, when it is known what each of them becomes. -/
theorem mapM_units {α β γ : Type} (kind : Kind) {parts : NameMap α} {unit : α → Step σ γ}
    {g : α → Except CompileError γ} (f : String → γ → β) {xs : List (String × γ)}
    (hunit : ∀ a, unit a = Step.ofExcept (g a)) (hnames : xs.map (·.1) = parts.names)
    (hxs : ∀ x ∈ xs, ∃ a, parts.get? x.1 = some a ∧ g a = .ok x.2) :
    (parts.entries.mapM fun e : String × α => do
      let c ← Step.inUnit kind e.1 (unit e.2)
      return f e.1 c) = pure (xs.map fun x => f x.1 x.2) := by
  have hsame : List.Forall₂ (fun (x : String × γ) (e : String × α) => x.1 = e.1) xs
      parts.entries := by
    have heq : List.Forall₂ (· = ·) (xs.map (·.1)) (parts.entries.map (·.1)) := by
      rw [List.forall₂_eq_eq_eq]
      exact hnames
    simpa only [List.forall₂_map_left_iff, List.forall₂_map_right_iff] using heq
  have hparts : ∀ e ∈ parts.entries, parts.get? e.1 = some e.2 :=
    fun e he => NameMap.mem_entries_iff.1 he
  refine Step.mapM_eq_pure (List.forall₂_map_right_iff.2 ?_)
  refine ((List.forall₂_and_left _ _).2 ⟨hparts,
    ((List.forall₂_and_left _ _).2 ⟨hxs, hsame⟩).flip⟩).imp ?_
  rintro ⟨_, a⟩ ⟨name, c⟩ ⟨ha, ⟨a', ha', hok⟩, rfl⟩
  obtain rfl : a' = a := Option.some.inj (ha'.symm.trans ha)
  have hunit' : Step.inUnit kind name (unit a') = pure c := by
    rw [hunit, hok]
    rfl
  rw [hunit', pure_bind]

/-- The tables and the views of all parts, each with its source. -/
def parts (c : Compiler σ) (r : Registry) : Step σ (List Product × List (String × View)) := do
  let enumerations ← c.enumerationProducts r
  let models ← c.modelProducts r
  let structures ← c.structureProducts
  let views ← c.views r
  return (enumerations ++ models ++ structures, views)

/-- A compilation makes all parts, puts the tables in order, and then writes. -/
theorem compileAll_eq_parts (c : Compiler σ) (r : Registry) (w : Writers σ) :
    c.compileAll r w = (do
      Step.ofExcept (c.ready w)
      let x ← c.parts r
      let ordered ← Step.ofExcept ((inOrder (x.1.map (·.table))).mapError .order)
      let s ← c.writeTables w ordered (sourcesOf x.1) {}
      c.writeViews w x.2 s) := by
  simp only [compileAll, parts, bind_assoc, pure_bind]

variable {settings : Settings} {r : Registry} [Nonempty σ]

/-! ### Units of a name -/

theorem model_eq_pure {name : String} {t : ModelTables} :
    (ofSettings settings : Compiler σ).model r name = pure t ↔
      ∃ m, r.models.get? name = some m ∧ compileModel settings.models r m = .ok t := by
  simp only [model, modelUnit_ofSettings, Step.ofExcept_bind, Step.ofExcept_eq_pure, bind_eq_ok,
    mapError_eq_ok, model_eq_ok]

theorem enumeration_eq_pure {name : String} {t : LookupTable} :
    (ofSettings settings : Compiler σ).enumeration r name = pure t ↔
      ∃ e, r.enumerations.get? name = some e
        ∧ compileEnumeration settings.enumerations e = .ok t := by
  simp only [enumeration, enumerationUnit_ofSettings, Step.ofExcept_bind, Step.ofExcept_eq_pure,
    bind_eq_ok, mapError_eq_ok, Registry.enumeration]
  cases r.enumerations.get? name <;> simp

theorem entity_eq_pure {name : String} {v : View} :
    (ofSettings settings : Compiler σ).entity r name = pure v ↔
      ∃ e, r.entities.get? name = some e
        ∧ compileEntity settings.linked.entities r e = .ok v := by
  simp only [entity, entityUnit_ofSettings, Step.ofExcept_bind, Step.ofExcept_eq_pure, bind_eq_ok,
    mapError_eq_ok, Registry.entity]
  cases r.entities.get? name <;> simp

/-! ### All units of a kind -/

theorem yields_enumerationProducts {products : List Product} {st st' : σ}
    (h : ((ofSettings settings : Compiler σ).enumerationProducts r).Yields st products st') :
    st = st' ∧ ∃ xs : List (String × LookupTable), xs.map (·.1) = r.enumerations.names
      ∧ (∀ x ∈ xs, (ofSettings settings : Compiler σ).enumeration r x.1 = pure x.2)
      ∧ products = xs.map fun x => ⟨x.2.table, .enumeration x.1 x.2.seed⟩ := by
  simp only [enumeration_eq_pure]
  exact yields_units (fun name (t : LookupTable) => Product.mk t.table (.enumeration name t.seed))
    (enumerationUnit_ofSettings settings) h

theorem yields_modelProducts {products : List Product} {st st' : σ}
    (h : ((ofSettings settings : Compiler σ).modelProducts r).Yields st products st') :
    st = st' ∧ ∃ xs : List (String × ModelTables), xs.map (·.1) = r.models.names
      ∧ (∀ x ∈ xs, (ofSettings settings : Compiler σ).model r x.1 = pure x.2)
      ∧ products = xs.flatMap fun x =>
        (x.2.table :: x.2.junctions).map fun t => ⟨t, .model x.1⟩ := by
  simp only [model_eq_pure]
  obtain ⟨_, mid, hlists, hflatten⟩ := Step.yields_bind.1 h
  obtain ⟨rfl, rfl⟩ := Step.yields_pure.1 hflatten
  obtain ⟨rfl, xs, hnames, hxs, rfl⟩ :=
    yields_units (fun name (ts : ModelTables) => ts.all.map fun t => Product.mk t (.model name))
      (modelUnit_ofSettings settings r) hlists
  exact ⟨rfl, xs, hnames, hxs, rfl⟩

theorem yields_structureProducts {products : List Product} {st st' : σ}
    (h : (ofSettings settings : Compiler σ).structureProducts.Yields st products st') :
    st = st' ∧ ∃ t?, (ofSettings settings : Compiler σ).structureTable = pure t?
      ∧ products = t?.toList.map fun t => ⟨t, .structures⟩ := by
  simp only [structureTable_ofSettings, Step.ofExcept_eq_pure]
  obtain ⟨t?, mid, htable, hproducts⟩ := Step.yields_bind.1 h
  rw [Step.yields_inUnit, structureTable_ofSettings, Step.yields_ofExcept] at htable
  obtain ⟨htable, rfl⟩ := htable
  cases t? <;> obtain ⟨rfl, rfl⟩ := Step.yields_pure.1 hproducts <;> exact ⟨rfl, _, htable, rfl⟩

theorem yields_views {views : List (String × View)} {st st' : σ}
    (h : ((ofSettings settings : Compiler σ).views r).Yields st views st') :
    st = st' ∧ views.map (·.1) = r.entities.names
      ∧ ∀ x ∈ views, (ofSettings settings : Compiler σ).entity r x.1 = pure x.2 := by
  simp only [entity_eq_pure]
  obtain ⟨rfl, xs, hnames, hxs, rfl⟩ :=
    yields_units Prod.mk (entityUnit_ofSettings settings r) h
  rw [List.map_id']
  exact ⟨rfl, hnames, hxs⟩

/-! ### All parts -/

/-- Making the parts leaves the state as it is and gives the units of the registry. -/
theorem yields_parts {x : List Product × List (String × View)} {st st' : σ}
    (h : ((ofSettings settings : Compiler σ).parts r).Yields st x st') :
    st = st' ∧ ∃ u : Units, u.Of (ofSettings settings : Compiler σ) r
      ∧ x = (u.products, u.views) := by
  obtain ⟨_, _, hlookups, h⟩ := Step.yields_bind.1 h
  obtain ⟨rfl, lookups, hlookupNames, hlookup, rfl⟩ := yields_enumerationProducts hlookups
  obtain ⟨_, _, hmodels, h⟩ := Step.yields_bind.1 h
  obtain ⟨rfl, models, hmodelNames, hmodel, rfl⟩ := yields_modelProducts hmodels
  obtain ⟨_, _, hstructures, h⟩ := Step.yields_bind.1 h
  obtain ⟨rfl, structures, hstructure, rfl⟩ := yields_structureProducts hstructures
  obtain ⟨views, _, hviews, h⟩ := Step.yields_bind.1 h
  obtain ⟨rfl, hviewNames, hview⟩ := yields_views hviews
  obtain ⟨rfl, rfl⟩ := Step.yields_pure.1 h
  exact ⟨rfl, ⟨lookups, models, structures, views⟩,
    ⟨hlookupNames, hmodelNames, hviewNames, hlookup, hmodel, hview, hstructure⟩, rfl⟩

/-- The parts of a registry whose units are known. -/
theorem parts_eq {u : Units} (hu : u.Of (ofSettings settings : Compiler σ) r) :
    (ofSettings settings : Compiler σ).parts r = pure (u.products, u.views) := by
  have hlookups : (ofSettings settings : Compiler σ).enumerationProducts r
      = pure (u.lookups.map fun x => ⟨x.2.table, .enumeration x.1 x.2.seed⟩) :=
    mapM_units .enumeration
      (fun name (t : LookupTable) => Product.mk t.table (.enumeration name t.seed))
      (enumerationUnit_ofSettings settings) hu.lookup_names
      fun x hx => enumeration_eq_pure.1 (hu.lookup x hx)
  have hmodels : (ofSettings settings : Compiler σ).modelProducts r
      = pure (u.models.flatMap fun x =>
        (x.2.table :: x.2.junctions).map fun t => ⟨t, .model x.1⟩) := by
    have hlists := mapM_units .model
      (fun name (ts : ModelTables) => ts.all.map fun t => Product.mk t (.model name))
      (modelUnit_ofSettings (σ := σ) settings r) hu.model_names
      fun x hx => model_eq_pure.1 (hu.model x hx)
    rw [modelProducts, hlists, pure_bind]
    rfl
  have hstructures : (ofSettings settings : Compiler σ).structureProducts
      = pure (u.structures.toList.map fun t => ⟨t, .structures⟩) := by
    rw [structureProducts, hu.structures]
    cases u.structures <;> rfl
  have hviews : (ofSettings settings : Compiler σ).views r = pure u.views := by
    have hviews := mapM_units .entity Prod.mk (entityUnit_ofSettings (σ := σ) settings r)
      hu.view_names fun x hx => entity_eq_pure.1 (hu.view x hx)
    rwa [List.map_id'] at hviews
  simp only [parts, hlookups, hmodels, hstructures, hviews, pure_bind]
  rfl

/-- What a compilation has made when it starts to write: the units of the registry, and the order of
their tables. -/
theorem compileAll_yields {w : Writers σ} {s : Schema} {st st' : σ}
    (h : ((ofSettings settings : Compiler σ).compileAll r w).Yields st s st') :
    ∃ (u : Units) (ordered : List Table), u.Of (ofSettings settings : Compiler σ) r
      ∧ inOrder (u.products.map (·.table)) = .ok ordered
      ∧ ((ofSettings settings : Compiler σ).writeTables w ordered (sourcesOf u.products) {}
          >>= (ofSettings settings : Compiler σ).writeViews w u.views).Yields st s st' := by
  rw [compileAll_eq_parts] at h
  -- up to the writers every stage leaves the state as it is
  obtain ⟨_, _, hready, h⟩ := Step.yields_bind.1 h
  obtain ⟨-, rfl⟩ := Step.yields_ofExcept.1 hready
  obtain ⟨_, _, hparts, h⟩ := Step.yields_bind.1 h
  obtain ⟨rfl, u, hu, rfl⟩ := yields_parts hparts
  obtain ⟨ordered, _, hordered, h⟩ := Step.yields_bind.1 h
  obtain ⟨horder, rfl⟩ := Step.yields_ofExcept.1 hordered
  exact ⟨u, ordered, hu, mapError_eq_ok.1 horder, h⟩

/-- A compilation whose units are known puts their tables in order and writes them. -/
theorem compileAll_eq {u : Units} (hu : u.Of (ofSettings settings : Compiler σ) r)
    (w : Writers σ) : (ofSettings settings : Compiler σ).compileAll r w = (do
      Step.ofExcept ((ofSettings settings : Compiler σ).ready w)
      let ordered ← Step.ofExcept ((inOrder (u.products.map (·.table))).mapError .order)
      let s ← (ofSettings settings : Compiler σ).writeTables w ordered (sourcesOf u.products) {}
      (ofSettings settings : Compiler σ).writeViews w u.views s) := by
  simp only [compileAll_eq_parts, parts_eq hu, pure_bind]

end Compiler

/-! ## Tables and their sources -/

/-- The schema that holds what a kind of part becomes. -/
def schemaOf (settings : Settings) : Kind → String
  | .model => settings.models.schema
  | .enumeration => settings.enumerations.schema
  | .entity => settings.entities.schema
  | .record => settings.structures.schema

namespace Units.Of

variable {settings : Settings} {r : Registry} {u : Units} [Nonempty σ]

/-- The three kinds of tables. -/
theorem product_cases (hu : u.Of (Compiler.ofSettings settings : Compiler σ) r) {p : Product}
    (hp : p ∈ u.products) :
    (∃ name e t, r.enumerations.get? name = some e
        ∧ compileEnumeration settings.enumerations e = .ok t
        ∧ p = ⟨t.table, .enumeration name t.seed⟩)
    ∨ (∃ name m ts t, r.models.get? name = some m ∧ compileModel settings.models r m = .ok ts
        ∧ t ∈ ts.table :: ts.junctions ∧ p = ⟨t, .model name⟩)
    ∨ p = ⟨structureTable settings.structures, .structures⟩ := by
  simp only [Units.products, List.mem_append, List.mem_map, List.mem_flatMap,
    Option.mem_toList] at hp
  rcases hp with (⟨x, hx, rfl⟩ | ⟨x, hx, t, ht, rfl⟩) | ⟨t, ht, rfl⟩
  · obtain ⟨e, he, hok⟩ := Compiler.enumeration_eq_pure.1 (hu.lookup x hx)
    exact .inl ⟨x.1, e, x.2, he, hok, rfl⟩
  · obtain ⟨m, hm, hok⟩ := Compiler.model_eq_pure.1 (hu.model x hx)
    exact .inr (.inl ⟨x.1, m, x.2, t, hm, hok, ht, rfl⟩)
  · have hok := hu.structures
    rw [Compiler.structureTable_ofSettings, Step.ofExcept_eq_pure] at hok
    have ht? := compileStructures_ok hok
    rw [ht] at ht?
    split at ht?
    · exact .inr (.inr (by rw [Option.some.inj ht?]))
    · cases ht?

/-- Every registered model is among the units. -/
theorem exists_models (hu : u.Of (Compiler.ofSettings settings : Compiler σ) r) {name : String}
    {m : Model} (hm : r.models.get? name = some m) :
    ∃ ts, (name, ts) ∈ u.models ∧ compileModel settings.models r m = .ok ts := by
  have hname : name ∈ u.models.map (·.1) := by
    rw [hu.model_names]
    exact NameMap.mem_names_iff.2 ⟨m, hm⟩
  obtain ⟨x, hx, rfl⟩ := List.mem_map.1 hname
  obtain ⟨m', hm', hok⟩ := Compiler.model_eq_pure.1 (hu.model x hx)
  obtain rfl : m' = m := Option.some.inj (hm'.symm.trans hm)
  exact ⟨x.2, hx, hok⟩

/-- Only tables of models have foreign keys. -/
theorem compileModel_of_foreignKey (hu : u.Of (Compiler.ofSettings settings : Compiler σ) r)
    {p : Product} (hp : p ∈ u.products) {k : ForeignKey} (hk : k ∈ p.table.foreignKeys) :
    ∃ name m ts, r.models.get? name = some m ∧ compileModel settings.models r m = .ok ts
      ∧ p.table ∈ ts.table :: ts.junctions := by
  rcases hu.product_cases hp with ⟨_, _, _, -, hok, rfl⟩ | ⟨name, m, ts, t, hm, hok, ht, rfl⟩ | rfl
  · rw [compileEnumeration_ok hok] at hk
    cases hk
  · exact ⟨name, m, ts, hm, hok, ht⟩
  · cases hk

/-- A table is in the schema of its kind. -/
theorem schema_product (hu : u.Of (Compiler.ofSettings settings : Compiler σ) r) {p : Product}
    (hp : p ∈ u.products) : p.table.schema = schemaOf settings p.source.kind := by
  rcases hu.product_cases hp with ⟨_, _, _, -, hok, rfl⟩ | ⟨_, _, _, _, -, hok, ht, rfl⟩ | rfl
  · simp only [compileEnumeration_ok hok]
    rfl
  · exact (compileModel_table hok ht).1
  · rfl

/-- No table has a separator in its name. -/
theorem notMem_product {c : Char} (hc : c ∈ Text.separators)
    (hu : u.Of (Compiler.ofSettings settings : Compiler σ) r) {p : Product}
    (hp : p ∈ u.products) : c ∉ p.table.name.toList := by
  rcases hu.product_cases hp with ⟨_, e, _, -, hok, rfl⟩ | ⟨_, _, _, _, -, hok, ht, rfl⟩ | rfl
  · simp only [compileEnumeration_ok hok]
    exact Naming.notMem_tableName hc e.name
  · exact compileModel_notMem hc hok ht
  · rcases Text.eq_or_eq_of_separator hc with rfl | rfl
    · exact (by decide : '.' ∉ structuresTable.toList)
    · exact (by decide : '/' ∉ structuresTable.toList)

/-- Tables of distinct keys have distinct qualified names: the last dot ends the schema. -/
theorem nodup_qualifiedNames (hu : u.Of (Compiler.ofSettings settings : Compiler σ) r)
    (hkeys : (u.products.map (·.table.key)).Nodup) :
    (u.products.map (·.table.qualifiedName)).Nodup := by
  rw [List.Nodup, List.pairwise_map] at hkeys ⊢
  refine hkeys.imp_of_mem fun hp hq hne heq => hne ?_
  obtain ⟨hschema, hname⟩ :=
    Naming.append_dot_inj (hu.notMem_product (by decide) hp) (hu.notMem_product (by decide) hq) heq
  exact Prod.ext hschema hname

/-- Tables of distinct keys have distinct entries: the kind of an entry tells the schema. -/
theorem nodup_tableEntries (hu : u.Of (Compiler.ofSettings settings : Compiler σ) r)
    (hkeys : (u.products.map (·.table.key)).Nodup) :
    (u.products.map fun p => (Piece.table p).entry).Nodup := by
  rw [List.Nodup, List.pairwise_map] at hkeys ⊢
  refine hkeys.imp_of_mem fun hp hq hne heq => hne ?_
  obtain ⟨hkind, -, hname⟩ := Emitted.mk.inj heq
  exact Prod.ext ((hu.schema_product hp).trans (hkind ▸ (hu.schema_product hq).symm)) hname

end Units.Of

/-! ## Layouts -/

/-- How the units of a registry stand in the schema that a compilation emits: the tables in their
order and then the views, each stored under its entry with its bytes. -/
structure Layout (u : Units) (tables : List Product) (bytes : List Bytes) (s : Schema) :
    Prop where
  perm : tables.Perm u.products
  inOrder_eq : inOrder (u.products.map (·.table)) = .ok (tables.map (·.table))
  nodup_entries : ((u.pieces tables).map Piece.entry).Nodup
  length_eq : bytes.length = (u.pieces tables).length
  stored : s = ({} : Schema).putAll ((u.pieces tables).zip bytes)

/-- An entry comes before another in the order of a schema. -/
def Schema.Before (s : Schema) (e e' : Emitted) : Prop :=
  ∃ before after, s.order = before ++ e' :: after ∧ e ∈ before

/-- A permutation of images is the list of images of a permutation. -/
theorem exists_perm_map {α β : Type} {f : α → β} {as : List α} {bs : List β}
    (h : bs.Perm (as.map f)) : ∃ as' : List α, as'.Perm as ∧ bs = as'.map f := by
  have himages : List.Forall₂ (fun b a => b = f a) (as.map f) as := by
    rw [← List.forall₂_map_right_iff, List.forall₂_eq_eq_eq]
  obtain ⟨as', hbs, hperm⟩ := List.perm_comp_forall₂ h himages
  rw [← List.forall₂_map_right_iff, List.forall₂_eq_eq_eq] at hbs
  exact ⟨as', hperm, hbs⟩

/-- Entries do not repeat: those of tables and of views differ in their kinds, and no entity has two
views. -/
theorem Units.Of.nodup_entries {settings : Settings} {r : Registry} {u : Units} [Nonempty σ]
    (hu : u.Of (Compiler.ofSettings settings : Compiler σ) r) {tables : List Product}
    (hperm : tables.Perm u.products) (hkeys : (u.products.map (·.table.key)).Nodup) :
    ((u.pieces tables).map Piece.entry).Nodup := by
  rw [Units.pieces, List.map_append, List.map_map, List.map_map]
  refine List.nodup_append.2 ⟨?_, ?_, ?_⟩
  · exact (hperm.map _).nodup_iff.2 (hu.nodup_tableEntries hkeys)
  · have hnames : (u.views.map (·.1)).Nodup := hu.view_names ▸ r.entities.nodup_names
    rw [List.Nodup, List.pairwise_map] at hnames ⊢
    exact hnames.imp fun hne heq => hne (Emitted.mk.inj heq).2.1
  · intro e he e' he' heq
    obtain ⟨p, -, rfl⟩ := List.mem_map.1 he
    obtain ⟨x, -, rfl⟩ := List.mem_map.1 he'
    obtain ⟨t, source⟩ := p
    cases source <;> cases heq

/-- Tables in an order that could be found are written as pieces, with the views after them: no two
share a qualified name, so that each finds its own source. -/
theorem Units.Of.writePieces_eq {settings : Settings} {r : Registry} {u : Units} [Nonempty σ]
    (hu : u.Of (Compiler.ofSettings settings : Compiler σ) r) {tables : List Product}
    (hperm : tables.Perm u.products) (hkeys : (u.products.map (·.table.key)).Nodup) {τ : Type}
    (c : Compiler τ) (w : Writers τ) :
    c.writeTables w (tables.map (·.table)) (Compiler.sourcesOf u.products) {}
      >>= c.writeViews w u.views = c.writePieces w (u.pieces tables) {} := by
  have hnames := hu.nodup_qualifiedNames hkeys
  have hsources : ∀ p ∈ tables,
      (Compiler.sourcesOf u.products).get? p.table.qualifiedName = some p.source := by
    intro p hp
    refine NameMap.get?_ofList (by rwa [List.map_map]) ?_
    exact List.mem_map.2 ⟨p, hperm.mem_iff.1 hp, rfl⟩
  rw [c.writeTables_eq w {} ((hperm.map _).nodup_iff.2 hnames) hsources,
    funext (c.writeViews_eq w u.views), ← c.writePieces_append, Units.pieces]

theorem Units.Of.writeAll_eq {settings : Settings} {r : Registry} {u : Units} [Nonempty σ]
    (hu : u.Of (Compiler.ofSettings settings : Compiler σ) r) {tables : List Product}
    (hperm : tables.Perm u.products) (hkeys : (u.products.map (·.table.key)).Nodup) {τ : Type}
    (w : Writers τ) :
    (Compiler.ofSettings settings).writeTables w (tables.map (·.table))
        (Compiler.sourcesOf u.products) {}
      >>= (Compiler.ofSettings settings).writeViews w u.views
        = writeAll w (u.pieces tables) {} := by
  rw [hu.writePieces_eq hperm hkeys, Compiler.writePieces_ofSettings]

/-- An order of tables is one of the products they belong to. -/
theorem Units.exists_tables {u : Units} {ordered : List Table}
    (h : inOrder (u.products.map (·.table)) = .ok ordered) :
    ∃ tables : List Product, tables.Perm u.products ∧ ordered = tables.map (·.table)
      ∧ (u.products.map (·.table.key)).Nodup := by
  obtain ⟨hperm, hkeys, -⟩ := inOrder_ok h
  obtain ⟨tables, htables, rfl⟩ := exists_perm_map hperm
  rw [List.map_map] at hkeys
  exact ⟨tables, htables, rfl, hkeys⟩

/-- Every compilation that succeeds has a layout, whose bytes the writers return in its order. -/
theorem compileAll_layout {settings : Settings} {r : Registry} {w : Writers σ} {s : Schema}
    {st st' : σ} (h : ((Compiler.ofSettings settings).compileAll r w).Yields st s st') :
    ∃ u tables bytes, u.Of (Compiler.ofSettings settings : Compiler σ) r
      ∧ Layout u tables bytes s
      ∧ ((u.pieces tables).mapM (Piece.write w)).Yields st bytes st' := by
  have : Nonempty σ := ⟨st⟩
  obtain ⟨u, ordered, hu, horder, hwrite⟩ := Compiler.compileAll_yields h
  obtain ⟨tables, htables, rfl, hkeys⟩ := Units.exists_tables horder
  rw [hu.writeAll_eq htables hkeys] at hwrite
  obtain ⟨bytes, hbytes, hlength, rfl⟩ := yields_writeAll hwrite
  exact ⟨u, tables, bytes, hu,
    ⟨htables, horder, hu.nodup_entries htables hkeys, hlength, rfl⟩, hbytes⟩

namespace Layout

variable {u : Units} {tables : List Product} {bytes : List Bytes} {s : Schema}

theorem nodup_keys (hl : Layout u tables bytes s) : (tables.map (·.table.key)).Nodup := by
  obtain ⟨-, hkeys, -⟩ := inOrder_ok hl.inOrder_eq
  rw [List.map_map] at hkeys
  exact (hl.perm.map _).nodup_iff.2 hkeys

theorem ordered (hl : Layout u tables bytes s) : DependencyOrdered (tables.map (·.table)) :=
  (inOrder_ok hl.inOrder_eq).2.2

theorem map_fst_zip (hl : Layout u tables bytes s) :
    ((u.pieces tables).zip bytes).map (·.1) = u.pieces tables :=
  List.map_fst_zip (Nat.le_of_eq hl.length_eq.symm)

theorem map_entry_zip (hl : Layout u tables bytes s) :
    ((u.pieces tables).zip bytes).map (·.1.entry) = (u.pieces tables).map Piece.entry := by
  conv_rhs => rw [← hl.map_fst_zip, List.map_map]
  rfl

theorem order_eq (hl : Layout u tables bytes s) :
    s.order = (u.pieces tables).map Piece.entry := by
  rw [hl.stored, Schema.order_putAll, hl.map_entry_zip]
  rfl

theorem piece?_eq_some (hl : Layout u tables bytes s) {e : Emitted}
    {x : Piece × Bytes} :
    s.piece? e = some x ↔ x ∈ (u.pieces tables).zip bytes ∧ e = x.1.entry := by
  have hnodup := hl.nodup_entries
  rw [← hl.map_entry_zip] at hnodup
  rw [hl.stored, Schema.piece?_putAll_eq_some hnodup]

/-- The pieces of a schema, without their bytes. -/
theorem exists_piece?_iff (hl : Layout u tables bytes s) {e : Emitted} {p : Piece} :
    (∃ b, s.piece? e = some (p, b)) ↔ p ∈ u.pieces tables ∧ e = p.entry := by
  simp only [hl.piece?_eq_some]
  nth_rewrite 2 [← hl.map_fst_zip]
  simp only [List.mem_map, Prod.exists, exists_and_right, exists_eq_right]

/-- The tables of a schema. -/
theorem table?_eq_some (hl : Layout u tables bytes s) {e : Emitted} {t : Table} :
    s.table? e = some t ↔ ∃ p ∈ tables, e = (Piece.table p).entry ∧ p.table = t := by
  rw [Schema.table?, Option.bind_eq_some_iff]
  constructor
  · rintro ⟨⟨p, b⟩, hp, ht⟩
    obtain ⟨hmem, rfl⟩ := hl.exists_piece?_iff.1 ⟨b, hp⟩
    cases p with
    | table p => exact ⟨p, Units.table_mem_pieces.1 hmem, rfl, Option.some.inj ht⟩
    | view name v => cases ht
  · rintro ⟨p, hp, rfl, rfl⟩
    obtain ⟨b, hb⟩ := hl.exists_piece?_iff.2 ⟨Units.table_mem_pieces.2 hp, rfl⟩
    exact ⟨_, hb, rfl⟩

/-- The views of a schema. -/
theorem view?_eq_some (hl : Layout u tables bytes s) {e : Emitted} {v : View} :
    s.view? e = some v ↔ ∃ name, (name, v) ∈ u.views ∧ e = (Piece.view name v).entry := by
  rw [Schema.view?, Option.bind_eq_some_iff]
  constructor
  · rintro ⟨⟨p, b⟩, hp, hv⟩
    obtain ⟨hmem, rfl⟩ := hl.exists_piece?_iff.1 ⟨b, hp⟩
    cases p with
    | table p => cases hv
    | view name v' =>
      cases hv
      exact ⟨name, Units.view_mem_pieces.1 hmem, rfl⟩
  · rintro ⟨name, hv, rfl⟩
    obtain ⟨b, hb⟩ := hl.exists_piece?_iff.2 ⟨Units.view_mem_pieces.2 hv, rfl⟩
    exact ⟨_, hb, rfl⟩

/-- A table is the only one of its key. -/
theorem eq_of_key (hl : Layout u tables bytes s) {p q : Product} (hp : p ∈ tables)
    (hq : q ∈ tables) (h : p.table.key = q.table.key) : p = q :=
  List.inj_on_of_nodup_map hl.nodup_keys hp hq h

/-- Every registered model has its table in the schema. -/
theorem exists_tableOf [Nonempty σ] {settings : Settings} {r : Registry}
    (hl : Layout u tables bytes s)
    (hu : u.Of (Compiler.ofSettings settings : Compiler σ) r) {name : String} {m : Model}
    (hm : r.models.get? name = some m) :
    ∃ ones, ⟨tableOf settings.models m ones, .model name⟩ ∈ tables := by
  obtain ⟨ts, hts, hok⟩ := hu.exists_models hm
  obtain ⟨ones, many, hlowered⟩ := compileModel_ok hok
  refine ⟨ones, ?_⟩
  rw [hl.perm.mem_iff, ← hlowered.table_eq]
  exact Units.table_mem_products hts List.mem_cons_self

/-! ### What comes first -/

theorem before_of_pieces (hl : Layout u tables bytes s) {before after : List Piece}
    {p q : Piece} (h : u.pieces tables = before ++ p :: after) (hq : q ∈ before) :
    s.Before q.entry p.entry := by
  refine ⟨before.map Piece.entry, after.map Piece.entry, ?_, List.mem_map_of_mem hq⟩
  rw [hl.order_eq, h, List.map_append, List.map_cons]

/-- A table comes after the tables it depends on. -/
theorem before_of_dependsOn (hl : Layout u tables bytes s) {p q : Product}
    (hp : p ∈ tables) (hq : q ∈ tables) (hd : p.table.dependsOn q.table = true) :
    s.Before (Piece.table q).entry (Piece.table p).entry := by
  obtain ⟨before, after, rfl⟩ := List.append_of_mem hp
  have hordered := hl.ordered
  rw [List.map_append, List.map_cons] at hordered
  have hmem : q.table ∈ before.map (·.table) ++ p.table :: after.map (·.table) := by
    rw [← List.map_cons, ← List.map_append]
    exact List.mem_map_of_mem hq
  obtain ⟨q', hq', heq⟩ := List.mem_map.1 (hordered.mem_before hmem hd)
  have hsame : q' = q := hl.eq_of_key (List.mem_append_left _ hq') hq (congrArg Table.key heq)
  have hpieces : u.pieces (before ++ p :: after) = before.map .table ++ Piece.table p ::
      (after.map .table ++ u.views.map fun x => .view x.1 x.2) := by
    simp [Units.pieces]
  exact hl.before_of_pieces hpieces (List.mem_map_of_mem (hsame ▸ hq'))

/-- A view comes after all tables. -/
theorem before_view (hl : Layout u tables bytes s) {p : Product} (hp : p ∈ tables)
    {name : String} {v : View} (hv : (name, v) ∈ u.views) :
    s.Before (Piece.table p).entry (Piece.view name v).entry := by
  obtain ⟨before, after, heq⟩ := List.append_of_mem hv
  have hpieces : u.pieces tables = (tables.map .table ++ before.map fun x => .view x.1 x.2)
      ++ Piece.view name v :: after.map fun x => .view x.1 x.2 := by
    simp [Units.pieces, heq]
  exact hl.before_of_pieces hpieces (List.mem_append_left _ (List.mem_map_of_mem hp))

end Layout

end Schemata.Emission
