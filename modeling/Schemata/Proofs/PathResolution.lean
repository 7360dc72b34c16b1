import Schemata.Proofs.JoinSharing
import Schemata.Proofs.Text.ByteOrder

/-!
# Which entities can be compiled

An entity is refused where one of its paths cannot be followed, or where a join needs a key that a
model does not have. The first is a matter of each path by itself. The second is not: a hop needs
keys only where it is the first one that leads to its alias, so a path may pass a model without a
key if another path has been there before. If all models at both ends of hops have a key, only the
paths decide.

## Main definitions

* `Trip.Follows`: a trip follows the path of a field.
* `Resolved`: trips for all fields of an entity, which begin at one registered model.
* `KeyedWhereNew`: the hops that need a join come from models with a key, and lead to such.
* `Trip.ShownBy`: the column in which a view shows the end of a trip.

## Main statements

* `parsePath_eq_ok`: the paths that have the parts they need.
* `exists_foldlM_hop`, `exists_foldlM_addPath`: paths that resolve can be followed, one and all.
* `exists_compileEntity_iff`: the entities that compile.
* `compileEntity_resolves`: the paths of entities that compile, and their columns.
-/

namespace Schemata.Lowering

open Spec Sql Settings

/-! ## Paths that resolve -/

/-- A path can be taken apart if it has at least two segments and none of them is empty. -/
theorem parsePath_eq_ok {e : Entity} {name : String} {field : EntityField} {path : FieldPath} :
    parsePath e name field = .ok path ↔ path.field = name
      ∧ field.segments = path.root :: (path.hops ++ [path.terminal]) ∧ "" ∉ field.segments := by
  obtain ⟨pathField, root, hops, terminal⟩ := path
  unfold parsePath
  simp only
  split
  · rename_i first second rest hsegments
    have hempty : (first :: second :: rest).any String.isEmpty = true
        ↔ "" ∈ first :: second :: rest := by
      simp [List.any_eq_true]
    rw [hsegments]
    split
    · rename_i hany
      simp [hempty.1 hany]
    · rename_i hany
      have hinner : second :: rest = hops ++ [terminal] ↔ (second :: rest).dropLast = hops
          ∧ (second :: rest).getLast (List.cons_ne_nil second rest) = terminal := by
        constructor
        · intro heq
          simp [heq]
        · rintro ⟨rfl, rfl⟩
          exact (List.dropLast_append_getLast _).symm
      simp only [Except.ok.injEq, FieldPath.mk.injEq, List.cons.injEq, hinner, mt hempty.2 hany,
        not_false_eq_true, and_true, @eq_comm _ name]
  · rename_i hshort
    constructor
    · intro h
      cases h
    · rintro ⟨-, hsegments, -⟩
      obtain ⟨second, rest, hinner⟩ := List.exists_cons_of_ne_nil
        (List.append_ne_nil_of_right_ne_nil hops (List.cons_ne_nil terminal []))
      exact absurd (hsegments.trans (by rw [hinner])) (hshort root second rest)

/-- A trip follows the path of a field: the path names the model where the trip starts, the
relations it takes, and a field of the model where it ends. -/
structure Trip.Follows (r : Registry) (root : Model) (f : String × EntityField) (t : Trip) : Prop
    extends t.Along r root where
  field_eq : t.path.field = f.1
  segments_eq : f.2.segments = t.path.root :: (t.path.hops ++ [t.path.terminal])
  nonempty : "" ∉ f.2.segments

/-- All paths of an entity begin at one registered model, and can be followed from there. -/
structure Resolved (r : Registry) (e : Entity) (root : Model) (trips : List Trip) : Prop where
  fields : List.Forall₂ (Trip.Follows r root) e.fields.entries trips
  registered : ∃ name, r.models.get? name = some root ∧ ∀ t ∈ trips, t.path.root = name

/-! ## Keys -/

/-- One field that a model declares identifies it. -/
def Keyed (m : Model) : Prop :=
  ∃ key field, m.primary? = some [key] ∧ m.fields.get? key = some field

theorem keyed_iff {m : Model} : Keyed m ↔ ∃ k, singleKey m = .ok k := by
  constructor
  · rintro ⟨key, field, hkey⟩
    exact ⟨(key, field), singleKey_ok.2 hkey⟩
  · rintro ⟨⟨key, field⟩, hkey⟩
    exact ⟨key, field, singleKey_ok.1 hkey⟩

/-- The models at both ends of a hop have a key. -/
def Hop.Keyed (h : Hop) : Prop := Lowering.Keyed h.source.model ∧ Lowering.Keyed h.target.model

theorem Hop.keyed_iff {schema : String} {h : Hop} :
    h.Keyed ↔ ∃ j, h.join schema = .ok j := by
  simp only [Hop.Keyed, Lowering.keyed_iff, Hop.join_ok]
  constructor
  · rintro ⟨⟨source, hsource⟩, target, htarget⟩
    exact ⟨_, source, target, hsource, htarget, rfl⟩
  · rintro ⟨_, source, target, hsource, htarget, -⟩
    exact ⟨⟨source, hsource⟩, target, htarget⟩

/-- A hop that leads to an alias before all others do comes from a model with a key, and leads to
one. -/
def KeyedWhereNew (hops : List Hop) : Prop :=
  ∀ before h after, hops = before ++ h :: after →
    h.target.asName ∉ before.map (·.target.asName) → h.Keyed

theorem Joined.keyedWhereNew {schema : String} {hops : List Hop} {joins : List Join}
    (hj : Joined schema hops joins) : KeyedWhereNew hops := by
  intro before h after hsplit hnew
  have hmem : h ∈ hops := by simp [hsplit]
  obtain ⟨j, hjmem, hname⟩ := List.mem_map.1 (hj.covers h hmem)
  obtain ⟨g, hfind, hjoin⟩ := hj.made j hjmem
  -- no earlier hop leads to the alias, so the join was made for this one
  have hbefore : before.find? (·.target.asName == h.target.asName) = none :=
    List.find?_eq_none.2 fun g hg heq => hnew (List.mem_map.2 ⟨g, hg, beq_iff_eq.1 heq⟩)
  have hfirst : hops.find? (·.target.asName == h.target.asName) = some h := by
    rw [hsplit, List.find?_append, hbefore, Option.none_or, List.find?_cons_of_pos (by simp)]
  rw [hname, hfirst, Option.some.injEq] at hfind
  exact Hop.keyed_iff.2 ⟨j, hfind ▸ hjoin⟩

/-- A hop can be taken if it needs no join, or finds the keys for one. -/
theorem Joined.exists_addJoin {schema : String} {done : List Hop} {w : Walk} {h : Hop}
    (hj : Joined schema done w.joins) (hsource : h.source = w.stop)
    (hkeys : h.target.asName ∉ done.map (·.target.asName) → h.Keyed) :
    ∃ joins, addJoin schema w h.target.model h.target.table h.target.asName = .ok joins := by
  by_cases htaken : h.target.asName ∈ w.joins.map (·.asName)
  · exact ⟨_, addJoin_ok.2 (.inl ⟨htaken, rfl⟩)⟩
  · have hnew : h.target.asName ∉ done.map (·.target.asName) := by
      intro hmem
      obtain ⟨g, hg, hname⟩ := List.mem_map.1 hmem
      exact htaken (hname ▸ hj.covers g hg)
    obtain ⟨j, hjoin⟩ := Hop.keyed_iff.1 (hkeys hnew)
    rw [Hop.join, hsource] at hjoin
    exact ⟨_, addJoin_ok.2 (.inr ⟨htaken, j, hjoin, rfl⟩)⟩

/-! ## Paths that can be followed -/

/-- A path that resolves can be followed, from joins for the hops before it. -/
theorem exists_foldlM_hop {schema : String} {r : Registry} {e : Entity} {field rootTable : String}
    {x : Stop} {path : List String} {hops : List Hop} (hroute : Route r rootTable x path hops)
    {w : Walk} (hw : w.stop = x) {done after : List Hop} (hj : Joined schema done w.joins)
    (hkeys : KeyedWhereNew (done ++ (hops ++ after))) :
    ∃ w', path.foldlM (Walk.hop schema r e field rootTable) w = .ok w' := by
  induction hroute generalizing w done with
  | nil x => exact ⟨w, rfl⟩
  | @cons x next name path hops relation related one registered named rest ih =>
    have hsource : (⟨x, name, next⟩ : Hop).source = w.stop := hw.symm
    have hrelated : w.stop.model.related.get? name = some relation := by rw [hw]; exact related
    obtain ⟨joins, hadd⟩ :=
      hj.exists_addJoin hsource (hkeys done ⟨x, name, next⟩ (hops ++ after) rfl)
    have hhop : Walk.hop schema r e field rootTable w name = .ok ⟨next.model, next.asName, joins⟩ :=
      Walk.hop_eq_ok.2 ⟨relation, next.model, next.asName, joins, hrelated, one, registered,
        named, hadd, rfl⟩
    have hmid : Joined schema (done ++ [⟨x, name, next⟩]) joins := hj.step hsource hadd
    obtain ⟨w', hrest⟩ := ih (w := ⟨next.model, next.asName, joins⟩) rfl hmid (by simpa using hkeys)
    exact ⟨w', by rw [List.foldlM_cons, bind_eq_ok]; exact ⟨_, hhop, hrest⟩⟩

/-- The column of a trip can be added, and the joins of its hops. -/
theorem exists_addPath {schema : String} {r : Registry} {e : Entity} {root : Model} {d : Draft}
    {t : Trip} (ht : t.Along r root) {done after : List Hop} (hj : Joined schema done d.joins)
    (hkeys : KeyedWhereNew (done ++ (t.hops ++ after))) :
    ∃ d', addPath schema r e root t.path.root d t.path = .ok d'
      ∧ Joined schema (done ++ t.hops) d'.joins := by
  obtain ⟨path, start, hops⟩ := t
  obtain rfl : start = Stop.first root := ht.start_eq
  have hroute : Route r (Stop.first root).table (Stop.first root) path.hops hops := ht.route
  obtain ⟨w, hwalk⟩ : ∃ w, path.hops.foldlM
      (Walk.hop schema r e path.field (Stop.first root).table)
      ⟨root, (Stop.first root).asName, d.joins⟩ = .ok w :=
    exists_foldlM_hop hroute rfl hj hkeys
  obtain ⟨taken, htaken, hlast, hjoined⟩ := foldlM_hop_ok hwalk hj
  obtain rfl : taken = hops := Option.some.inj (htaken.route?_eq.symm.trans hroute.route?_eq)
  have hend : w.model = (lastStop (Stop.first root) taken).model := congrArg Stop.model hlast
  have hterminal : w.model.fields.contains path.terminal = true := by
    rw [hend]
    exact ht.terminal
  exact ⟨_, addPath_eq_ok.2 ⟨rfl, w, hwalk, hterminal, rfl⟩, hjoined⟩

/-- Paths that resolve can be followed one after the other. -/
theorem exists_foldlM_addPath {schema : String} {r : Registry} {e : Entity} {root : Model}
    {name : String} {trips : List Trip}
    (halong : ∀ t ∈ trips, t.path.root = name ∧ t.Along r root)
    (hkeys : KeyedWhereNew (trips.flatMap (·.hops))) :
    ∃ d, (trips.map (·.path)).foldlM (addPath schema r e root name) {} = .ok d := by
  have hstep : ∀ done t rest d, trips = done ++ t :: rest →
      Joined schema (done.flatMap (·.hops)) (Draft.joins d) →
      ∃ d', addPath schema r e root name d t.path = .ok d'
        ∧ Joined schema ((done ++ [t]).flatMap (·.hops)) d'.joins := by
    intro done t rest d hsplit hj
    obtain ⟨rfl, ht⟩ := halong t (by simp [hsplit])
    rw [hsplit, List.flatMap_append, List.flatMap_cons] at hkeys
    simpa using exists_addPath ht hj hkeys
  rw [List.foldlM_map]
  obtain ⟨d, hd, -⟩ := exists_foldlM_ok (b := ({} : Draft))
    (fun done (d : Draft) => Joined schema (done.flatMap Trip.hops) d.joins) (Joined.empty schema)
    hstep
  exact ⟨d, hd⟩

/-! ## Entities that can be compiled -/

/-- An entity that compiles has a trip for each field, a column for where the trip ends, and joins
for its hops. -/
theorem resolved_of_ok {s : EntitySettings} {r : Registry} {e : Entity} {v : View}
    (h : compileEntity s r e = .ok v) : ∃ root trips, Resolved r e root trips
      ∧ v.columns = trips.map Trip.column
      ∧ Joined s.models.schema (trips.flatMap (·.hops)) v.joins := by
  obtain ⟨name, root, trips, hroot, halong, hparsed, -, -, -, hcolumns, hjoined⟩ :=
    compileEntity_trips h
  refine ⟨root, trips, ⟨hparsed.imp ?_, name, hroot, fun t ht => (halong t ht).1⟩, hcolumns,
    hjoined⟩
  rintro f t ⟨⟨-, ht⟩, hparse⟩
  obtain ⟨hfield, hsegments, hnonempty⟩ := parsePath_eq_ok.1 hparse
  exact ⟨ht, hfield, hsegments, hnonempty⟩

/-- An entity whose paths resolve compiles, if joins find the keys that they need. -/
theorem Resolved.exists_ok {s : EntitySettings} {r : Registry} {e : Entity} {root : Model}
    {trips : List Trip} (hr : Resolved r e root trips)
    (hkeys : KeyedWhereNew (trips.flatMap (·.hops))) (hname : Text.isBlank e.name = false)
    (hfields : e.fields.isEmpty = false) (hschema : Text.isBlank s.schema = false)
    (hmodels : Text.isBlank s.models.schema = false) : ∃ v, compileEntity s r e = .ok v := by
  obtain ⟨hfollows, name, hroot, hstart⟩ := hr
  have hpaths : List.Forall₂ (fun f path => parsePath e f.1 f.2 = .ok path) e.fields.entries
      (trips.map (·.path)) := by
    rw [List.forall₂_map_right_iff]
    exact hfollows.imp fun f t ht => parsePath_eq_ok.2 ⟨ht.field_eq, ht.segments_eq, ht.nonempty⟩
  have halong : ∀ t ∈ trips, t.path.root = name ∧ t.Along r root := by
    intro t ht
    obtain ⟨f, -, hf⟩ := exists_left_of_forall₂ hfollows ht
    exact ⟨hstart t ht, hf.toAlong⟩
  -- there is a first path, and it begins at the model where all begin
  have hfirst : rootName (trips.map (·.path)) = name := by
    cases trips with
    | nil =>
      rw [List.forall₂_nil_right_iff] at hfollows
      simp [NameMap.isEmpty_eq, hfollows] at hfields
    | cons t rest => exact hstart t List.mem_cons_self
  obtain ⟨d, hd⟩ : ∃ d, (trips.map (·.path)).foldlM (addPath s.models.schema r e root name) {}
      = .ok d := exists_foldlM_addPath halong hkeys
  exact ⟨_, compileEntity_eq_ok.2 ⟨hname, hfields, hschema, hmodels, _, root, d, hpaths,
    hfirst.symm ▸ hroot, hfirst.symm ▸ hd, rfl⟩⟩

/-- An entity compiles exactly if it has a name, fields, and schemas for its view and for tables,
all its paths resolve from one model, and the first hop to each alias has a key at both ends. -/
theorem exists_compileEntity_iff {s : EntitySettings} {r : Registry} {e : Entity} :
    (∃ v, compileEntity s r e = .ok v) ↔ Text.isBlank e.name = false ∧ e.fields.isEmpty = false
      ∧ Text.isBlank s.schema = false ∧ Text.isBlank s.models.schema = false
      ∧ ∃ root trips, Resolved r e root trips ∧ KeyedWhereNew (trips.flatMap (·.hops)) := by
  constructor
  · rintro ⟨v, h⟩
    obtain ⟨hname, hfields, hschema, hmodels, -⟩ := compileEntity_eq_ok.1 h
    obtain ⟨root, trips, hr, -, hjoined⟩ := resolved_of_ok h
    exact ⟨hname, hfields, hschema, hmodels, root, trips, hr, hjoined.keyedWhereNew⟩
  · rintro ⟨hname, hfields, hschema, hmodels, root, trips, hr, hkeys⟩
    exact hr.exists_ok hkeys hname hfields hschema hmodels

/-- A column shows the end of a trip: under the name of the field, from the alias where the trip has
led, with an alias of its own where the name is not that of the source. -/
structure Trip.ShownBy (t : Trip) (c : ViewColumn) : Prop where
  name_eq : c.name = Naming.columnName t.path.field
  source_eq : c.source = t.last.asName ++ "." ++ Naming.columnName t.path.terminal
  unnamed : Naming.columnName t.path.field = Naming.columnName t.path.terminal → c.asName = none
  named : Naming.columnName t.path.field ≠ Naming.columnName t.path.terminal →
    c.asName = some (Naming.columnName t.path.field)

theorem Trip.shownBy_column (t : Trip) : t.ShownBy t.column where
  name_eq := rfl
  source_eq := rfl
  unnamed h := by simp only [Trip.column, viewColumn, h, if_true]
  named h := by simp only [Trip.column, viewColumn, h, if_false]

/-- The paths of an entity that compiles resolve, and its columns show their ends, in the order of
the bytes of the field names. Conversely, an entity whose paths resolve compiles if the models at
both ends of all hops have a key. -/
theorem compileEntity_resolves {s : EntitySettings} {r : Registry} {e : Entity}
    (hname : Text.isBlank e.name = false) (hfields : e.fields.isEmpty = false)
    (hschema : Text.isBlank s.schema = false) (hmodels : Text.isBlank s.models.schema = false) :
    (∀ v, compileEntity s r e = .ok v → ∃ root trips, Resolved r e root trips
      ∧ e.fields.names.Pairwise (fun a b => Text.utf8 a < Text.utf8 b)
      ∧ List.Forall₂ Trip.ShownBy trips v.columns)
    ∧ ∀ root trips, Resolved r e root trips → (∀ t ∈ trips, ∀ h ∈ t.hops, h.Keyed) →
      ∃ v, compileEntity s r e = .ok v := by
  constructor
  · intro v h
    obtain ⟨root, trips, hr, hcolumns, -⟩ := resolved_of_ok h
    refine ⟨root, trips, hr, e.fields.pairwise_utf8_names, ?_⟩
    rw [hcolumns, List.forall₂_map_right_iff, List.forall₂_same]
    exact fun t _ => t.shownBy_column
  · intro root trips hr hkeys
    refine hr.exists_ok (fun before h after hsplit _ => ?_) hname hfields hschema hmodels
    have hmem : h ∈ trips.flatMap (·.hops) := by simp [hsplit]
    obtain ⟨t, ht, hh⟩ := List.mem_flatMap.1 hmem
    exact hkeys t ht h hh

namespace Diamond

def batch : Model :=
  model "Batch" [("Box", ⟨.forOne, "Box", none⟩), ("Person", ⟨.forOne, "Person", none⟩)]

/-- What has an address. -/
def holder (name : String) : Model := model name [("Address", ⟨.forOne, "Address", none⟩)]

/-- A model that is reached from a batch, under the alias of the relation that leads to it. -/
def stop (m : Model) (relation : String) : Stop :=
  ⟨m, joinAlias (Stop.first batch).table (Naming.tableName m.name) relation⟩

/-- From a batch to the city of a holder. -/
def trip (field name : String) : Trip :=
  ⟨⟨field, "Batch", [name, "Address"], "City"⟩, Stop.first batch,
    [⟨Stop.first batch, name, stop (holder name) name⟩,
      ⟨stop (holder name) name, "Address", stop (model "Address" []) "Address"⟩]⟩

theorem related_holder : ∀ name ∈ ["Box", "Person"],
    batch.related.get? name = some ⟨.forOne, name, none⟩
    ∧ registry.models.get? name = some (holder name)
    ∧ (holder name).related.get? "Address" = some ⟨.forOne, "Address", none⟩
    ∧ registry.models.get? "Address" = some (model "Address" [])
    ∧ name ≠ "" := by
  decide +kernel

theorem asName_stop (m : Model) (relation : String) : (stop m relation).asName
    = joinAlias (Stop.first batch).table (stop m relation).table relation := by
  simp only [stop, Stop.table]

theorem follows_trip {field name path : String} (h : name ∈ ["Box", "Person"])
    (hpath : EntityField.segments { path := path } = ["Batch", name, "Address", "City"]) :
    (trip field name).Follows registry batch (field, { path := path }) := by
  obtain ⟨hholder, hregistered, haddress, hregistered', hname⟩ := related_holder name h
  have hroute : Route registry (Stop.first batch).table (Stop.first batch) [name, "Address"]
      (trip field name).hops :=
    .cons hholder (.inl rfl) hregistered (asName_stop _ _)
      (.cons haddress (.inl rfl) hregistered' (asName_stop _ _) (.nil _))
  have hcity : (model "Address" []).fields.contains "City" = true := by decide +kernel
  exact {
    start_eq := rfl
    route := hroute
    terminal := hcity
    field_eq := rfl
    segments_eq := hpath
    nonempty := by simp [hpath, hname.symm] }

theorem keyed_model (name : String) (related : List (String × Relation)) :
    Keyed (model name related) :=
  ⟨"ID", { type := .autoIncrement }, rfl, rfl⟩

theorem resolved : Resolved registry entity batch [trip "owned" "Person", trip "stored" "Box"] := by
  refine ⟨?_, "Batch", by decide +kernel, by simp [trip]⟩
  have hentries : entity.fields.entries = [("owned", { path := "Batch.Person.Address.City" }),
      ("stored", { path := "Batch.Box.Address.City" })] := by decide +kernel
  rw [hentries]
  exact .cons (follows_trip (by decide) (by decide +kernel))
    (.cons (follows_trip (by decide) (by decide +kernel)) .nil)

end Diamond

/-- Two paths to one model both resolve. -/
theorem compileEntity_resolves_diamond :
    ∃ v, compileEntity {} Diamond.registry Diamond.entity = .ok v
      ∧ ∃ root trips, Resolved Diamond.registry Diamond.entity root trips
        ∧ List.Forall₂ Trip.ShownBy trips v.columns := by
  obtain ⟨hsound, hcomplete⟩ := @compileEntity_resolves {} Diamond.registry Diamond.entity
    (by decide) (by decide) (by decide) (by decide)
  obtain ⟨v, hv⟩ := hcomplete _ _ Diamond.resolved (by
    simp [Diamond.trip, Diamond.stop, Stop.first, Hop.Keyed, Diamond.batch, Diamond.holder,
      Diamond.keyed_model])
  obtain ⟨root, trips, hresolved, -, hcolumns⟩ := hsound v hv
  exact ⟨v, hv, root, trips, hresolved, hcolumns⟩

end Schemata.Lowering
