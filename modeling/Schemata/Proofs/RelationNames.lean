import Schemata.Files.Output
import Schemata.Proofs.Emission
import Schemata.Proofs.EntityView
import Schemata.Proofs.Rendering.Legible
import Mathlib.Data.Prod.Basic

/-!
# Names of relations

Tables and views share the names of a database schema, and the objects of a kind share a directory.
No two tables have one name: a compilation that would make them so does not succeed. Views are
compared with nothing. Different entities have the same view when their names differ in case alone,
say, and a view has the name of a table when its suffix brings that about. Relations are therefore
apart exactly when the names of the views are, from each other and from those of the tables in their
schema; and files are apart exactly when the names of the views are.

## Main definitions

* `Schema.relations`: the names that a schema gives to tables and views.
* `Files.objectPath`, `Files.paths`: where the objects of a schema are written.
* `viewNames`: the names of the views of a registry.

## Main statements

* `Files.objectPath_inj`: objects of different kinds or names have different files.
* `compileAll_relations`: when relations and files are apart.
-/

namespace Schemata.Files

open Emission Spec Sql

/-! ## Files -/

/-- The file of an object. -/
def objectPath (directory : String) (e : Emitted) : String :=
  joinPath (joinPath directory (kindDirectory e.kind)) (e.artifact ++ ".sql")

/-- The files of a schema: those of its objects, and the one with everything in order. -/
def paths (directory : String) (s : Schema) : List String :=
  s.order.map (objectPath directory) ++ [joinPath directory scriptFile]

/-- What stands before a relative path below another. -/
def stem (base : String) : List Char :=
  if base.isEmpty then []
  else if base.toList.getLast? == some '/' then base.toList
  else base.toList ++ ['/']

theorem toList_joinPath (base : String) {path : String} (h : isAbsolute path = false) :
    (joinPath base path).toList = stem base ++ path.toList := by
  unfold joinPath stem
  rw [h, Bool.false_or]
  split
  · rfl
  · split <;> simp

theorem stem_of_getLast? {base : String} {c : Char} (h : base.toList.getLast? = some c)
    (hc : c ≠ '/') : stem base = base.toList ++ ['/'] := by
  have hempty : base.isEmpty = false := by
    rw [Bool.eq_false_iff]
    intro hbase
    simp [String.isEmpty_iff.1 hbase] at h
  simp [stem, hempty, h, hc]

theorem isAbsolute_append {name : String} (h : '/' ∉ name.toList) {ending : String}
    (hending : isAbsolute ending = false) : isAbsolute (name ++ ending) = false := by
  unfold isAbsolute at hending ⊢
  rw [String.toList_append]
  cases hname : name.toList with
  | nil => exact hending
  | cons c cs =>
    have hc : '/' ≠ c := fun heq => h (hname ▸ heq ▸ List.mem_cons_self)
    simp [hc.symm]

theorem toList_objectPath (directory : String) {e : Emitted} (h : '/' ∉ e.artifact.toList) :
    (objectPath directory e).toList = stem directory
      ++ ((kindDirectory e.kind ++ "/").toList ++ (e.artifact ++ ".sql").toList) := by
  have hkind : isAbsolute (kindDirectory e.kind) = false := by cases e.kind <;> decide
  have hlast : (kindDirectory e.kind).toList.getLast? = some 's' := by cases e.kind <;> decide
  have hstem : stem (joinPath directory (kindDirectory e.kind))
      = (joinPath directory (kindDirectory e.kind)).toList ++ ['/'] := by
    refine stem_of_getLast? (c := 's') ?_ (by decide)
    rw [toList_joinPath directory hkind, List.getLast?_append, hlast]
    rfl
  rw [objectPath, toList_joinPath _ (isAbsolute_append h (by decide)), hstem,
    toList_joinPath directory hkind]
  simp

theorem kindDirectory_begins (k l : Kind)
    (h : (kindDirectory k ++ "/").toList <+: (kindDirectory l ++ "/").toList) : k = l := by
  revert h
  cases k <;> cases l <;> decide

/-- Objects of different kinds or names have different files. -/
theorem objectPath_inj {directory : String} {e e' : Emitted} (h : '/' ∉ e.artifact.toList)
    (h' : '/' ∉ e'.artifact.toList) :
    objectPath directory e = objectPath directory e'
      ↔ e.kind = e'.kind ∧ e.artifact = e'.artifact := by
  constructor
  · intro heq
    have hchars := congrArg String.toList heq
    rw [toList_objectPath directory h, toList_objectPath directory h'] at hchars
    obtain ⟨hkind, hfile⟩ := legible_words (P := anything) kindDirectory_begins trivial trivial
      (List.append_cancel_left hchars)
    rw [String.toList_append, String.toList_append] at hfile
    exact ⟨hkind, String.toList_inj.1 (List.append_cancel_right hfile)⟩
  · rintro ⟨hkind, hname⟩
    rw [objectPath, objectPath, hkind, hname]

/-- The file with everything in order is not that of an object. -/
theorem objectPath_ne_script {directory : String} {e : Emitted} (h : '/' ∉ e.artifact.toList) :
    objectPath directory e ≠ joinPath directory scriptFile := by
  intro heq
  have hchars := congrArg String.toList heq
  rw [toList_objectPath directory h, toList_joinPath directory (by decide)] at hchars
  have hobject : Begins ["models/", "enums/", "entities/", "structures/"]
      (kindDirectory e.kind ++ "/").toList := by
    cases e.kind <;> decide
  have hscript : Begins ["schema.sql"] scriptFile.toList := by decide
  exact (hobject.append _).ne hscript (by decide) (List.append_cancel_left hchars)

section Writing

variable {m : Type → Type} [Monad m] {α β : Type}

/-- A program can return one value alone, whatever it does before. -/
def OnlyReturns (x : m α) (a : α) : Prop := (fun _ => a) <$> x = x

variable [LawfulMonad m]

theorem onlyReturns_pure (a : α) : OnlyReturns (pure a : m α) a := map_pure _ _

theorem OnlyReturns.bind {x : m α} {f : α → m β} {a : α} {b : β} (hx : OnlyReturns x a)
    (hf : OnlyReturns (f a) b) : OnlyReturns (x >>= f) b := by
  unfold OnlyReturns at *
  calc (fun _ => b) <$> (x >>= f)
      = (fun _ => a) <$> x >>= fun y => (fun _ => b) <$> f y := by rw [hx, map_bind]
    _ = x >>= fun _ => f a := by rw [bind_map_left, hf]
    _ = (fun _ => a) <$> x >>= f := by rw [bind_map_left]
    _ = x >>= f := by rw [hx]

variable (host : Host m) (directory : String)

theorem onlyReturns_writeInto (name : String) (bytes : ByteArray) :
    OnlyReturns (writeInto host directory name bytes) (joinPath directory name) := by
  apply OptionT.ext
  simp only [writeInto, OptionT.run_map, OptionT.run_mk, map_bind]
  refine bind_congr fun made => ?_
  cases made with
  | false => simp
  | true =>
    simp only [Bool.not_true, Bool.false_eq_true, if_false, map_bind, map_pure]
    refine bind_congr fun written => ?_
    cases written <;> simp

theorem onlyReturns_writeObjects (s : Schema) {es : List Emitted}
    (h : ∀ e ∈ es, (s.bytes? e).isSome) :
    OnlyReturns (writeObjects host directory s es) (es.map (objectPath directory)) := by
  induction es with
  | nil => exact onlyReturns_pure []
  | cons e rest ih =>
    obtain ⟨bytes, hbytes⟩ := Option.isSome_iff_exists.1 (h e List.mem_cons_self)
    have hrest := ih fun e he => h e (List.mem_cons_of_mem _ he)
    simp only [writeObjects, hbytes]
    exact (onlyReturns_writeInto host _ _ bytes).bind (hrest.bind (onlyReturns_pure _))

/-- When a schema is written, the paths of its files are returned in the order of its objects. -/
theorem onlyReturns_writeSchema {s : Schema} (h : ∀ e ∈ s.order, (s.bytes? e).isSome) :
    OnlyReturns (writeSchema host directory s) (paths directory s) :=
  (onlyReturns_writeObjects host directory s h).bind
    ((onlyReturns_writeInto host directory scriptFile _).bind (onlyReturns_pure _))

end Writing

end Schemata.Files

namespace Schemata.Emission

open Files Lowering Spec Sql

variable {σ : Type}

/-! ## Relations -/

/-- The schema and the name of a piece in the database. -/
def Piece.relation : Piece → String × String
  | .table p => p.table.key
  | .view _ v => (v.schema, v.name)

/-- The names that a schema gives to tables and views, in order. -/
def Schema.relations (s : Schema) : List (String × String) :=
  s.order.filterMap fun e => (s.piece? e).map (·.1.relation)

/-- The names of the views of a registry, by the names of the entities. -/
def viewNames (settings : Settings) (r : Registry) : List String :=
  r.entities.entries.map fun x => Naming.viewName x.2.name settings.entities.suffix

/-- Functions that tell the same members of a list apart. -/
theorem nodup_map_congr {α β γ : Type} {f : α → β} {g : α → γ} {l : List α}
    (h : ∀ a ∈ l, ∀ b ∈ l, f a = f b ↔ g a = g b) : (l.map f).Nodup ↔ (l.map g).Nodup := by
  rw [List.Nodup, List.Nodup, List.pairwise_map, List.pairwise_map]
  exact List.Pairwise.iff_of_mem fun ha hb => not_congr (h _ ha _ hb)

namespace Units.Of

variable [Nonempty σ] {settings : Settings} {r : Registry} {u : Units}

theorem view_named (hu : u.Of (Compiler.ofSettings settings : Compiler σ) r) {x : String × View}
    (hx : x ∈ u.views) : ∃ e, r.entities.get? x.1 = some e ∧ x.2.schema = settings.entities.schema
      ∧ x.2.name = Naming.viewName e.name settings.entities.suffix := by
  obtain ⟨e, he, hok⟩ := Compiler.entity_eq_pure.1 (hu.view x hx)
  obtain ⟨hschema, hname⟩ := compileEntity_named hok
  exact ⟨e, he, hschema, hname⟩

theorem map_view_name (hu : u.Of (Compiler.ofSettings settings : Compiler σ) r) :
    u.views.map (·.2.name) = viewNames settings r := by
  -- both are read off the names of the entities
  let named : String → Option String := fun name =>
    (r.entities.get? name).map fun e => Naming.viewName e.name settings.entities.suffix
  have hviews : (u.views.map (·.2.name)).map some = (u.views.map (·.1)).map named := by
    rw [List.map_map, List.map_map]
    refine List.map_congr_left fun x hx => ?_
    obtain ⟨e, he, -, hname⟩ := hu.view_named hx
    simp [named, he, hname]
  have hentries : (viewNames settings r).map some = r.entities.names.map named := by
    rw [viewNames, NameMap.names, List.map_map, List.map_map]
    refine List.map_congr_left fun x hx => ?_
    simp [named, NameMap.mem_entries_iff.1 hx]
  have hsame := hviews.trans (hu.view_names ▸ hentries.symm)
  exact List.map_injective_iff.2 (fun _ _ => Option.some.inj) hsame

theorem map_view_relation (hu : u.Of (Compiler.ofSettings settings : Compiler σ) r) :
    u.views.map (fun x => (x.2.schema, x.2.name))
      = (viewNames settings r).map (Prod.mk settings.entities.schema) := by
  rw [← hu.map_view_name, List.map_map]
  refine List.map_congr_left fun x hx => ?_
  obtain ⟨-, -, hschema, -⟩ := hu.view_named hx
  rw [hschema]
  rfl

end Units.Of

namespace Layout

variable {u : Units} {tables : List Product} {bytes : List Bytes} {s : Schema}

theorem relations_eq (hl : Layout u tables bytes s) : s.relations
    = tables.map (·.table.key) ++ u.views.map fun x => (x.2.schema, x.2.name) := by
  calc s.relations
      = (s.order.map s.piece?).filterMap (Option.map (·.1.relation)) := by
        rw [Schema.relations, List.filterMap_map]
        rfl
    _ = ((u.pieces tables).zip bytes).map (·.1.relation) := by
        rw [hl.map_piece?, List.filterMap_map, ← List.filterMap_eq_map]
        rfl
    _ = (u.pieces tables).map Piece.relation := by
        conv_rhs => rw [← hl.map_fst_zip, List.map_map]
        rfl
    _ = tables.map (·.table.key) ++ u.views.map fun x => (x.2.schema, x.2.name) := by
        rw [Units.pieces, List.map_append, List.map_map, List.map_map]
        rfl

theorem isSome_bytes? (hl : Layout u tables bytes s) {e : Emitted} (he : e ∈ s.order) :
    (s.bytes? e).isSome := by
  have hmem : s.bytes? e ∈ bytes.map some := hl.map_bytes? ▸ List.mem_map_of_mem he
  obtain ⟨b, -, hb⟩ := List.mem_map.1 hmem
  rw [← hb]
  rfl

variable [Nonempty σ] {settings : Settings} {r : Registry}

/-- No two entries stand for tables of one name. -/
theorem entry_inj (hl : Layout u tables bytes s) {e e' : Emitted} {t t' : Table}
    (ht : s.table? e = some t) (ht' : s.table? e' = some t') (h : t.key = t'.key) : e = e' := by
  obtain ⟨p, hp, rfl, rfl⟩ := hl.table?_eq_some.1 ht
  obtain ⟨q, hq, rfl, rfl⟩ := hl.table?_eq_some.1 ht'
  rw [hl.eq_of_key hp hq h]

theorem nodup_relations_iff (hl : Layout u tables bytes s)
    (hu : u.Of (Compiler.ofSettings settings : Compiler σ) r) :
    s.relations.Nodup ↔ (viewNames settings r).Nodup ∧ ∀ e t, s.table? e = some t →
      t.schema = settings.entities.schema → t.name ∉ viewNames settings r := by
  have hmem (t : Table) : t.key ∈ (viewNames settings r).map (Prod.mk settings.entities.schema)
      ↔ t.schema = settings.entities.schema ∧ t.name ∈ viewNames settings r := by
    simp [Table.key, and_comm, eq_comm]
  rw [hl.relations_eq, hu.map_view_relation, List.nodup_append,
    List.nodup_map_iff (Prod.mk_right_injective _)]
  constructor
  · rintro ⟨-, hnodup, hapart⟩
    refine ⟨hnodup, fun e t ht hschema hname => ?_⟩
    obtain ⟨p, hp, -, rfl⟩ := hl.table?_eq_some.1 ht
    exact hapart _ (List.mem_map_of_mem hp) _ ((hmem p.table).2 ⟨hschema, hname⟩) rfl
  · rintro ⟨hnodup, hapart⟩
    refine ⟨hl.nodup_keys, hnodup, ?_⟩
    rintro _ hkey _ hview rfl
    obtain ⟨p, hp, rfl⟩ := List.mem_map.1 hkey
    obtain ⟨hschema, hname⟩ := (hmem p.table).1 hview
    exact hapart _ p.table (hl.table?_eq_some.2 ⟨p, hp, rfl, rfl⟩) hschema hname

/-- Objects of one kind have different names, but for views. -/
theorem nodup_places_iff (hl : Layout u tables bytes s)
    (hu : u.Of (Compiler.ofSettings settings : Compiler σ) r) :
    (s.order.map fun e => (e.kind, e.artifact)).Nodup ↔ (viewNames settings r).Nodup := by
  have htables : (tables.map fun p => (p.source.kind, p.table.name)).Nodup := by
    refine (nodup_map_congr (g := fun p => p.table.key) fun p hp q hq => ?_).2 hl.nodup_keys
    refine ⟨fun h => ?_, fun h => by rw [hl.eq_of_key hp hq h]⟩
    obtain ⟨hkind, hname⟩ := Prod.mk.inj h
    have hschema := hu.schema_product (hl.perm.mem_iff.1 hp)
    rw [hkind, ← hu.schema_product (hl.perm.mem_iff.1 hq)] at hschema
    exact Prod.ext hschema hname
  have hplaces : (s.order.map fun e => (e.kind, e.artifact))
      = tables.map (fun p => (p.source.kind, p.table.name))
        ++ (viewNames settings r).map (Prod.mk .entity) := by
    rw [hl.order_eq, Units.pieces, List.map_append, List.map_append, List.map_map, List.map_map,
      List.map_map, List.map_map, ← hu.map_view_name, List.map_map]
    rfl
  rw [hplaces, List.nodup_append, List.nodup_map_iff (Prod.mk_right_injective _)]
  refine ⟨fun h => h.2.1, fun h => ⟨htables, h, ?_⟩⟩
  rintro _ htable _ hview rfl
  obtain ⟨⟨t, source⟩, -, rfl⟩ := List.mem_map.1 htable
  obtain ⟨x, -, hkind⟩ := List.mem_map.1 hview
  cases source <;> cases (Prod.mk.inj hkind).1

theorem notMem_artifact (hl : Layout u tables bytes s)
    (hu : u.Of (Compiler.ofSettings settings : Compiler σ) r)
    (h : '/' ∉ settings.entities.suffix.toList) {e : Emitted} (he : e ∈ s.order) :
    '/' ∉ e.artifact.toList := by
  rw [hl.order_eq] at he
  obtain ⟨p, hp, rfl⟩ := List.mem_map.1 he
  cases p with
  | table p =>
    exact hu.notMem_product (by decide) (hl.perm.mem_iff.1 (Units.table_mem_pieces.1 hp))
  | view name v =>
    obtain ⟨x, -, -, hname⟩ := hu.view_named (Units.view_mem_pieces.1 hp)
    rw [Piece.entry, hname]
    exact Naming.notMem_viewName (by decide) x.name h

theorem nodup_paths_iff (hl : Layout u tables bytes s)
    (hu : u.Of (Compiler.ofSettings settings : Compiler σ) r)
    (h : '/' ∉ settings.entities.suffix.toList) (directory : String) :
    (paths directory s).Nodup ↔ (viewNames settings r).Nodup := by
  have hobjects : (s.order.map (objectPath directory)).Nodup
      ↔ (s.order.map fun e => (e.kind, e.artifact)).Nodup := by
    refine nodup_map_congr fun e he e' he' => ?_
    rw [objectPath_inj (hl.notMem_artifact hu h he) (hl.notMem_artifact hu h he'), Prod.mk.injEq]
  have hscript : joinPath directory scriptFile ∉ s.order.map (objectPath directory) := by
    intro hmem
    obtain ⟨e, he, heq⟩ := List.mem_map.1 hmem
    exact objectPath_ne_script (hl.notMem_artifact hu h he) heq
  rw [paths, ← List.concat_eq_append, List.nodup_concat, hobjects, hl.nodup_places_iff hu]
  exact and_iff_right hscript

end Layout

/-- Where a compilation without hooks succeeds, tables are apart. Relations are apart exactly when
views have different names, and none that of a table in their schema. Where the suffix of views does
not lead into another directory, files are apart exactly when views have different names. -/
theorem compileAll_relations {settings : Settings} {r : Registry} {w : Writers σ} {s : Schema}
    {st st' : σ} (h : ((Compiler.ofSettings settings).compileAll r w).Yields st s st') :
    (∀ e e' t t', s.table? e = some t → s.table? e' = some t' → t.key = t'.key → e = e')
    ∧ (s.relations.Nodup ↔ (viewNames settings r).Nodup ∧ ∀ e t, s.table? e = some t →
      t.schema = settings.entities.schema → t.name ∉ viewNames settings r)
    ∧ ∀ directory : String,
      (∀ {m : Type → Type} [Monad m] [LawfulMonad m] (host : Host m),
        OnlyReturns (writeSchema host directory s) (paths directory s))
      ∧ ('/' ∉ settings.entities.suffix.toList →
        ((paths directory s).Nodup ↔ (viewNames settings r).Nodup)) := by
  have : Nonempty σ := ⟨st⟩
  obtain ⟨u, tables, bytes, hu, hl, -⟩ := compileAll_layout h
  refine ⟨fun e e' t t' => hl.entry_inj, hl.nodup_relations_iff hu, fun directory => ⟨?_, ?_⟩⟩
  · intro m _ _ host
    exact onlyReturns_writeSchema host directory fun e he => hl.isSome_bytes? he
  · exact fun hsuffix => hl.nodup_paths_iff hu hsuffix directory

namespace Namesakes

/-- Two entities whose plurals are one. -/
def registry : Registry :=
  { models := NameMap.ofList [("Person", Sample.model "Person" [])]
    entities := NameMap.ofList [
      ("People", { name := "People"
                   fields := NameMap.ofList [("Name", { path := "Person.Name" })] }),
      ("Person", { name := "Person"
                   fields := NameMap.ofList [("ID", { path := "Person.ID" })] })] }

/-- The compilation of both, with writers of SQL. -/
def compilation : Step Unit Schema := (Compiler.ofSettings {}).compileAll registry {}

end Namesakes

/-- Both entities have the view `people_entities`, so one is replaced by the other, and their files
are one. -/
theorem not_nodup_namesakes : ∃ s, Namesakes.compilation.Yields () s () ∧ ¬s.relations.Nodup
    ∧ ¬(paths "out" s).Nodup := by
  have hnames : ¬(viewNames {} Namesakes.registry).Nodup := by decide +kernel
  obtain ⟨s, hs⟩ : ∃ s, Namesakes.compilation.Yields () s () :=
    Step.exists_yields_of_isOk (by decide +kernel)
  obtain ⟨-, hrelations, hfiles⟩ := compileAll_relations hs
  exact ⟨s, hs, fun h => hnames (hrelations.1 h).1,
    ((hfiles "out").2 (by decide)).not.2 hnames⟩

end Schemata.Emission
