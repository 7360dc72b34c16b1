import Schemata.Lowering.EntityView
import Schemata.Proofs.ModelTables

/-!
# The view of an entity, as a whole

A path is a walk over models. Seen by itself it is a list of hops, each from one stop to the next,
where a stop is a model with the alias under which its table is read; no joins are needed to say
what these are. A view that compiles has one trip for each field of the entity, a column for where
the trip ends, and joins for its hops. Of hops that lead to one alias, the first one decides.

## Main definitions

* `Stop`, `Hop`, `Route`, `route?`: the hops of a path.
* `Trip`, `trip?`: the path of a field with its hops.
* `Joined`: the joins that hops have led to.

## Main statements

* `joinFor_ok`, `addJoin_ok`, `Walk.hop_eq_ok`, `addPath_eq_ok`, `compileEntity_eq_ok`: what it
  takes to succeed, for each function on the way to a view.
* `Joined.step`: one more hop.
* `compileEntity_ok`: the view of an entity, written down at once.
-/

namespace Schemata.Lowering

open Spec Sql Settings

/-! ## Paths as lists of hops -/

/-- A model, and the alias under which its table is read. -/
structure Stop where
  model : Model
  asName : String

/-- The table of a stop. -/
def Stop.table (x : Stop) : String := Naming.tableName x.model.name

/-- The stop at which paths begin: the table is read under its own name. -/
def Stop.first (m : Model) : Stop := ⟨m, Naming.tableName m.name⟩

/-- From one stop to the next along a relation. -/
structure Hop where
  source : Stop
  relation : String
  target : Stop

/-- The hops of a path that goes on from a stop. -/
def route? (r : Registry) (rootTable : String) : Stop → List String → Option (List Hop)
  | _, [] => some []
  | x, name :: rest => do
    let relation ← x.model.related.get? name
    let target ← r.models.get? relation.resolved
    let next : Stop := ⟨target, joinAlias rootTable (Naming.tableName target.name) name⟩
    return ⟨x, name, next⟩ :: (← route? r rootTable next rest)

/-- A path goes on from a stop by the given hops: each follows a relation that the model reached so
far has to one target, to a model that is registered, under the alias of the relation. -/
inductive Route (r : Registry) (rootTable : String) : Stop → List String → List Hop → Prop
  | nil (x : Stop) : Route r rootTable x [] []
  | cons {x next : Stop} {name : String} {path : List String} {hops : List Hop}
      {relation : Relation} (related : x.model.related.get? name = some relation)
      (one : relation.kind = .forOne ∨ relation.kind = .hasOne)
      (registered : r.models.get? relation.resolved = some next.model)
      (named : next.asName = joinAlias rootTable next.table name)
      (rest : Route r rootTable next path hops) :
      Route r rootTable x (name :: path) (⟨x, name, next⟩ :: hops)

theorem Route.route?_eq {r : Registry} {rootTable : String} {x : Stop} {path : List String}
    {hops : List Hop} (h : Route r rootTable x path hops) :
    route? r rootTable x path = some hops := by
  induction h with
  | nil x => rfl
  | @cons x next name path hops relation related one registered named rest ih =>
    obtain ⟨target, asName⟩ := next
    have hname : joinAlias rootTable (Naming.tableName target.name) name = asName := named.symm
    simp only [route?, related, registered, hname, ih, Option.bind_eq_bind, Option.bind_some,
      Option.pure_def]

/-- Where a path ends that goes on from a stop. -/
def lastStop : Stop → List Hop → Stop
  | x, [] => x
  | _, h :: rest => lastStop h.target rest

/-- A path, the stop where it begins, and its hops. -/
structure Trip where
  path : FieldPath
  start : Stop
  hops : List Hop

/-- The stop where a path ends. -/
def Trip.last (t : Trip) : Stop := lastStop t.start t.hops

/-- The column that is read at the end of a path. -/
def Trip.column (t : Trip) : ViewColumn :=
  viewColumn t.last.asName t.path.terminal t.path.field

/-- The path of a field of an entity, followed from its first model. -/
def trip? (r : Registry) (e : Entity) (f : String × EntityField) : Option Trip := do
  let path ← (parsePath e f.1 f.2).toOption
  let root ← r.models.get? path.root
  let hops ← route? r (Stop.first root).table (Stop.first root) path.hops
  return ⟨path, Stop.first root, hops⟩

/-! ## Joins -/

/-- The join that a hop asks for. -/
def Hop.join (schema : String) (h : Hop) : Except CompileError Join :=
  joinFor schema ⟨h.source.model, h.source.asName, []⟩ h.target.model h.target.table h.target.asName

theorem joinFor_ok {schema : String} {w : Walk} {target : Model} {table asName : String}
    {j : Join} : joinFor schema w target table asName = .ok j ↔
    ∃ source key, singleKey w.model = .ok source ∧ singleKey target = .ok key
      ∧ j = {
        type := .left
        schema := schema
        table := table
        asName := asName
        conditions := [⟨reference w.asName (Naming.columnName source.1),
          reference asName (Naming.columnName key.1)⟩] } := by
  simp only [joinFor, bind_eq_ok, pure_eq_ok]
  constructor
  · rintro ⟨source, hsource, key, hkey, rfl⟩
    exact ⟨source, key, hsource, hkey, rfl⟩
  · rintro ⟨source, key, hsource, hkey, rfl⟩
    exact ⟨source, hsource, key, hkey, rfl⟩

theorem Hop.join_ok {schema : String} {h : Hop} {j : Join} : h.join schema = .ok j ↔
    ∃ source target, singleKey h.source.model = .ok source ∧ singleKey h.target.model = .ok target
      ∧ j = {
        type := .left
        schema := schema
        table := h.target.table
        asName := h.target.asName
        conditions := [⟨reference h.source.asName (Naming.columnName source.1),
          reference h.target.asName (Naming.columnName target.1)⟩] } :=
  joinFor_ok

/-- Joins stay as they are where the alias is taken, and grow by one at their end where it is
free. -/
theorem addJoin_ok {schema : String} {w : Walk} {target : Model} {table asName : String}
    {joins : List Join} : addJoin schema w target table asName = .ok joins ↔
    (asName ∈ w.joins.map (·.asName) ∧ joins = w.joins)
    ∨ (asName ∉ w.joins.map (·.asName)
      ∧ ∃ j, joinFor schema w target table asName = .ok j ∧ joins = w.joins ++ [j]) := by
  have htaken : w.joins.any (·.asName == asName) = true ↔ asName ∈ w.joins.map (·.asName) := by
    simp
  unfold addJoin
  split
  · rename_i h
    simp [htaken.1 h, eq_comm]
  · rename_i h
    simp only [mt htaken.2 h, bind_eq_ok, pure_eq_ok, false_and, not_false_eq_true, true_and,
      false_or, @eq_comm _ joins]

/-- Joins after the given hops: one for each alias, as the first hop to that alias asks for it. -/
structure Joined (schema : String) (hops : List Hop) (joins : List Join) : Prop where
  nodup : (joins.map (·.asName)).Nodup
  made : ∀ j ∈ joins, ∃ h, hops.find? (·.target.asName == j.asName) = some h
    ∧ h.join schema = .ok j
  covers : ∀ h ∈ hops, h.target.asName ∈ joins.map (·.asName)

theorem Joined.empty (schema : String) : Joined schema [] [] :=
  ⟨List.nodup_nil, by simp, by simp⟩

/-- One more hop adds its join, unless its alias is taken. -/
theorem Joined.step {schema : String} {hops : List Hop} {w : Walk} {joins : List Join} {h : Hop}
    (hj : Joined schema hops w.joins) (hsource : h.source = ⟨w.model, w.asName⟩)
    (hadd : addJoin schema w h.target.model h.target.table h.target.asName = .ok joins) :
    Joined schema (hops ++ [h]) joins := by
  have hmade : ∀ j ∈ w.joins, ∃ g, (hops ++ [h]).find? (·.target.asName == j.asName) = some g
      ∧ g.join schema = .ok j := by
    intro j hmem
    obtain ⟨g, hfind, hjoin⟩ := hj.made j hmem
    exact ⟨g, by rw [List.find?_append, hfind, Option.some_or], hjoin⟩
  rcases addJoin_ok.1 hadd with ⟨htaken, rfl⟩ | ⟨hnew, join, hjoin, rfl⟩
  -- the alias is taken: an earlier hop led to it, and stays the first one
  · refine ⟨hj.nodup, hmade, fun g hg => ?_⟩
    rcases List.mem_append.1 hg with hg | hg
    · exact hj.covers g hg
    · rw [List.mem_singleton.1 hg]
      exact htaken
  -- the alias is free: no earlier hop led to it, so this one is the first
  · have hjoin' : h.join schema = .ok join := by
      rw [← hjoin, Hop.join, hsource]
      rfl
    have hname : join.asName = h.target.asName := by
      obtain ⟨_, _, -, -, rfl⟩ := Hop.join_ok.1 hjoin'
      rfl
    have hfirst : hops.find? (·.target.asName == join.asName) = none := by
      refine List.find?_eq_none.2 fun g hg heq => hnew ?_
      rw [← hname, ← beq_iff_eq.1 heq]
      exact hj.covers g hg
    refine ⟨?_, fun j hmem => ?_, fun g hg => ?_⟩
    · rw [List.map_append, List.map_singleton, hname]
      exact List.nodup_append.2 ⟨hj.nodup, List.nodup_singleton _, by grind⟩
    · rcases List.mem_append.1 hmem with hmem | hmem
      · exact hmade j hmem
      · rw [List.mem_singleton.1 hmem]
        exact ⟨h, by rw [List.find?_append, hfirst]; simp [hname], hjoin'⟩
    · rw [List.map_append]
      rcases List.mem_append.1 hg with hg | hg
      · exact List.mem_append_left _ (hj.covers g hg)
      · rw [List.mem_singleton.1 hg, ← hname]
        exact List.mem_append_right _ (List.mem_singleton.2 rfl)

/-! ## Walks -/

/-- The stop that a walk has reached. -/
def Walk.stop (w : Walk) : Stop := ⟨w.model, w.asName⟩

theorem isOne_iff {kind : RelationKind} : kind.isOne = true ↔ kind = .forOne ∨ kind = .hasOne := by
  obtain ⟨direction, cardinality⟩ := kind
  cases direction <;> cases cardinality <;> decide

/-- A hop follows a relation to one target, which is registered, and adds the join of it. -/
theorem Walk.hop_eq_ok {schema : String} {r : Registry} {e : Entity}
    {field rootTable name : String} {w w' : Walk} :
    Walk.hop schema r e field rootTable w name = .ok w' ↔
      ∃ relation target asName joins, w.model.related.get? name = some relation
        ∧ (relation.kind = .forOne ∨ relation.kind = .hasOne)
        ∧ r.models.get? relation.resolved = some target
        ∧ asName = joinAlias rootTable (Naming.tableName target.name) name
        ∧ addJoin schema w target (Naming.tableName target.name) asName = .ok joins
        ∧ w' = ⟨target, asName, joins⟩ := by
  unfold Walk.hop
  cases hrelation : w.model.related.get? name with
  | none => simp [bind_eq_ok]
  | some relation =>
    simp only [bind_eq_ok, Except.ok.injEq, exists_eq_left', ← isOne_iff]
    constructor
    · intro h
      split at h
      · cases h
      · rename_i hone
        simp only [bind_eq_ok, pure_eq_ok, resolveTarget_ok] at h
        obtain ⟨target, htarget, joins, hjoins, rfl⟩ := h
        exact ⟨relation, target, _, joins, rfl, by simpa using hone, htarget, rfl, hjoins, rfl⟩
    · rintro ⟨_, target, asName, joins, hrel, hone, htarget, hname, hjoins, rfl⟩
      cases hrel
      rw [if_neg (by simp [hone])]
      simp only [bind_eq_ok, pure_eq_ok, resolveTarget_ok]
      exact ⟨target, htarget, joins, hname ▸ hjoins, by rw [hname]⟩

/-- A walk along a path takes the hops of the path. -/
theorem foldlM_hop_ok {schema : String} {r : Registry} {e : Entity} {field rootTable : String}
    {path : List String} {w w' : Walk} {done : List Hop}
    (h : path.foldlM (Walk.hop schema r e field rootTable) w = .ok w')
    (hj : Joined schema done w.joins) :
    ∃ hops, Route r rootTable w.stop path hops ∧ w'.stop = lastStop w.stop hops
      ∧ Joined schema (done ++ hops) w'.joins := by
  induction path generalizing w done with
  | nil =>
    obtain rfl := pure_eq_ok.1 h
    exact ⟨[], .nil _, rfl, by simpa using hj⟩
  | cons name path ih =>
    rw [List.foldlM_cons, bind_eq_ok] at h
    obtain ⟨mid, hhop, hrest⟩ := h
    obtain ⟨relation, target, asName, joins, hrelation, hone, htarget, hname, hadd, rfl⟩ :=
      Walk.hop_eq_ok.1 hhop
    have hmid : Joined schema (done ++ [⟨w.stop, name, ⟨target, asName⟩⟩]) joins :=
      hj.step rfl hadd
    obtain ⟨hops, hroute, hlast, hjoined⟩ := ih hrest hmid
    exact ⟨⟨w.stop, name, ⟨target, asName⟩⟩ :: hops, .cons hrelation hone htarget hname hroute,
      hlast, by simpa using hjoined⟩

/-! ## Whole entities -/

/-- A trip begins at the given model, takes the hops of its path, and ends at a model that has the
field to be read. -/
structure Trip.Along (r : Registry) (root : Model) (t : Trip) : Prop where
  start_eq : t.start = Stop.first root
  route : Route r t.start.table t.start t.path.hops t.hops
  terminal : t.last.model.fields.contains t.path.terminal = true

theorem Trip.Along.hops_eq {r : Registry} {root : Model} {t : Trip} (h : t.Along r root) :
    route? r t.start.table t.start t.path.hops = some t.hops :=
  h.route.route?_eq

/-- A path that is added begins at the root, and its walk ends at a model that has the field to be
read. -/
theorem addPath_eq_ok {schema : String} {r : Registry} {e : Entity} {root : Model}
    {rootName : String} {d d' : Draft} {path : FieldPath} :
    addPath schema r e root rootName d path = .ok d' ↔ path.root = rootName
      ∧ ∃ w, path.hops.foldlM (Walk.hop schema r e path.field (Stop.first root).table)
          ⟨root, (Stop.first root).asName, d.joins⟩ = .ok w
        ∧ w.model.fields.contains path.terminal = true
        ∧ d' = ⟨d.columns ++ [viewColumn w.asName path.terminal path.field], w.joins⟩ := by
  unfold addPath
  split
  · rename_i hroot
    simp [bind_eq_ok, hroot]
  · rename_i hroot
    simp only [bind_eq_ok, not_not.1 hroot, true_and]
    refine exists_congr fun w => and_congr_right fun _ => ?_
    split
    · rename_i hterminal
      have hmissing : w.model.fields.contains path.terminal = false := by simpa using hterminal
      simp only [bind_eq_ok, hmissing, throw_ne_ok, false_and, exists_false, Bool.false_eq_true]
    · rename_i hterminal
      have hfound : w.model.fields.contains path.terminal = true := by simpa using hterminal
      simp only [pure_eq_ok, hfound, true_and, @eq_comm _ d']

theorem addPath_ok {schema : String} {r : Registry} {e : Entity} {root : Model} {rootName : String}
    {d d' : Draft} {path : FieldPath} {done : List Hop}
    (h : addPath schema r e root rootName d path = .ok d') (hj : Joined schema done d.joins) :
    path.root = rootName ∧ ∃ t : Trip, t.path = path ∧ t.Along r root
      ∧ d'.columns = d.columns ++ [t.column] ∧ Joined schema (done ++ t.hops) d'.joins := by
  obtain ⟨hroot, w, hwalk, hterminal, rfl⟩ := addPath_eq_ok.1 h
  obtain ⟨hops, hroute, hlast, hjoined⟩ := foldlM_hop_ok hwalk hj
  have hstop : Trip.last ⟨path, Stop.first root, hops⟩ = w.stop := hlast.symm
  refine ⟨hroot, ⟨path, Stop.first root, hops⟩, rfl, ⟨rfl, hroute, ?_⟩, ?_, hjoined⟩
  · rw [hstop]
    exact hterminal
  · rw [Trip.column, hstop]
    rfl

/-- The drafts of a view: a trip for each path so far. -/
theorem foldlM_addPath_ok {schema : String} {r : Registry} {e : Entity} {root : Model}
    {rootName : String} {d : Draft} {paths : List FieldPath}
    (h : paths.foldlM (addPath schema r e root rootName) {} = .ok d) :
    ∃ trips : List Trip, trips.map (·.path) = paths
      ∧ (∀ t ∈ trips, t.path.root = rootName ∧ t.Along r root)
      ∧ d.columns = trips.map Trip.column ∧ Joined schema (trips.flatMap (·.hops)) d.joins := by
  refine foldlM_ok (fun done (d : Draft) => ∃ trips : List Trip, trips.map (·.path) = done
    ∧ (∀ t ∈ trips, t.path.root = rootName ∧ t.Along r root) ∧ d.columns = trips.map Trip.column
    ∧ Joined schema (trips.flatMap (·.hops)) d.joins) h
    ⟨[], rfl, by simp, rfl, Joined.empty schema⟩ ?_
  rintro done path d d' - ⟨trips, rfl, halong, hcolumns, hjoined⟩ hadd
  obtain ⟨hroot, t, rfl, ht, hcolumns', hjoined'⟩ := addPath_ok hadd hjoined
  refine ⟨trips ++ [t], by simp, fun t' ht' => ?_, by simp [hcolumns', hcolumns],
    by simpa using hjoined'⟩
  rcases List.mem_append.1 ht' with ht' | ht'
  · exact halong t' ht'
  · rw [List.mem_singleton.1 ht']
    exact ⟨hroot, ht⟩

/-- What the view of an entity is made of: trips for the fields, which begin at one model. -/
structure Viewed (s : EntitySettings) (r : Registry) (e : Entity) (root : Model)
    (trips : List Trip) (v : View) : Prop where
  root_mem : ∃ name, r.models.get? name = some root
  trips_eq : List.Forall₂ (fun f t => trip? r e f = some t) e.fields.entries trips
  along : ∀ t ∈ trips, t.Along r root
  fromSchema_eq : v.fromSchema = s.models.schema
  fromTable_eq : v.fromTable = (Stop.first root).table
  fromAlias_eq : v.fromAlias = (Stop.first root).asName
  columns_eq : v.columns = trips.map Trip.column
  joined : Joined s.models.schema (trips.flatMap (·.hops)) v.joins

/-- The model at which paths begin is the one that the first path names. -/
def rootName (paths : List FieldPath) : String := (paths.head?.map (·.root)).getD ""

/-- When an entity has a view, and which. -/
theorem compileEntity_eq_ok {s : EntitySettings} {r : Registry} {e : Entity} {v : View} :
    compileEntity s r e = .ok v ↔ Text.isBlank e.name = false ∧ e.fields.isEmpty = false
      ∧ Text.isBlank s.schema = false ∧ Text.isBlank s.models.schema = false
      ∧ ∃ paths root draft,
        List.Forall₂ (fun f path => parsePath e f.1 f.2 = .ok path) e.fields.entries paths
        ∧ r.models.get? (rootName paths) = some root
        ∧ paths.foldlM (addPath s.models.schema r e root (rootName paths)) {} = .ok draft
        ∧ v = {
          schema := s.schema
          name := Naming.viewName e.name s.suffix
          columns := draft.columns
          fromSchema := s.models.schema
          fromTable := (Stop.first root).table
          fromAlias := (Stop.first root).asName
          joins := draft.joins } := by
  unfold compileEntity
  simp only
  split
  · rename_i hname
    simp [bind_eq_ok, hname]
  · rename_i hname
    rw [Bool.not_eq_true] at hname
    split
    · rename_i hfields
      simp [bind_eq_ok, hfields]
    · rename_i hfields
      rw [Bool.not_eq_true] at hfields
      simp only [bind_eq_ok, pure_eq_ok, mapM_eq_ok, mapError_eq_ok, model_eq_ok, hname, hfields,
        true_and]
      constructor
      · rintro ⟨⟨⟩, hschema, ⟨⟩, hmodels, paths, hpaths, root, hroot, draft, hdraft, rfl⟩
        exact ⟨requireSchema_ok.1 hschema, requireSchema_ok.1 hmodels, paths, root, draft, hpaths,
          hroot, hdraft, rfl⟩
      · rintro ⟨hschema, hmodels, paths, root, draft, hpaths, hroot, hdraft, rfl⟩
        exact ⟨(), requireSchema_ok.2 hschema, (), requireSchema_ok.2 hmodels, paths, hpaths, root,
          hroot, draft, hdraft, rfl⟩

/-- The paths of the fields and the trips along them, from the model that all paths name. -/
theorem compileEntity_trips {s : EntitySettings} {r : Registry} {e : Entity} {v : View}
    (h : compileEntity s r e = .ok v) : ∃ name root trips, r.models.get? name = some root
      ∧ (∀ t ∈ trips, t.path.root = name ∧ t.Along r root)
      ∧ List.Forall₂ (fun f t => (t.path.root = name ∧ t.Along r root)
        ∧ parsePath e f.1 f.2 = .ok t.path) e.fields.entries trips
      ∧ v.fromSchema = s.models.schema ∧ v.fromTable = (Stop.first root).table
      ∧ v.fromAlias = (Stop.first root).asName ∧ v.columns = trips.map Trip.column
      ∧ Joined s.models.schema (trips.flatMap (·.hops)) v.joins := by
  obtain ⟨-, -, -, -, paths, root, draft, hpaths, hroot, hdraft, rfl⟩ := compileEntity_eq_ok.1 h
  obtain ⟨trips, rfl, halong, hcolumns, hjoined⟩ := foldlM_addPath_ok hdraft
  rw [List.forall₂_map_right_iff] at hpaths
  exact ⟨_, root, trips, hroot, halong,
    ((List.forall₂_and_left _ _).2 ⟨halong, hpaths.flip⟩).flip, rfl, rfl, rfl, hcolumns, hjoined⟩

theorem compileEntity_ok {s : EntitySettings} {r : Registry} {e : Entity} {v : View}
    (h : compileEntity s r e = .ok v) : ∃ root trips, Viewed s r e root trips v := by
  obtain ⟨name, root, trips, hroot, halong, hparsed, hschema, htable, halias, hcolumns, hjoined⟩ :=
    compileEntity_trips h
  refine ⟨root, trips, ⟨name, hroot⟩, hparsed.imp ?_, fun t ht => (halong t ht).2, hschema, htable,
    halias, hcolumns, hjoined⟩
  rintro f ⟨path, start, hops⟩ ⟨⟨rfl, htrip⟩, hparse⟩
  obtain rfl : start = Stop.first root := htrip.start_eq
  have hroute : route? r (Stop.first root).table (Stop.first root) path.hops = some hops :=
    htrip.hops_eq
  have hpath : parsePath e f.1 f.2 = .ok path := hparse
  simp only [trip?, hpath, Except.toOption, Option.bind_eq_bind, Option.bind_some, hroot,
    hroute, Option.pure_def]

theorem compileEntity_named {s : EntitySettings} {r : Registry} {e : Entity} {v : View}
    (h : compileEntity s r e = .ok v) :
    v.schema = s.schema ∧ v.name = Naming.viewName e.name s.suffix := by
  obtain ⟨-, -, -, -, _, _, _, -, -, -, rfl⟩ := compileEntity_eq_ok.1 h
  exact ⟨rfl, rfl⟩

end Schemata.Lowering
