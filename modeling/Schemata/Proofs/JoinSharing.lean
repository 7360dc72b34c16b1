import Schemata.Proofs.EntityView
import Schemata.Proofs.Naming.Separator

/-!
# Which joins paths may share

A hop that leads to an alias for which there is a join gets no join of its own. Whether that join
is the right one is not asked: it is the one that the first hop to the alias needed. So a column is
read along its own path exactly if all hops to one alias come from the same column of the same
alias and lead to the same column of the same table. Two ways to one model break this.

## Main definitions

* `Hop.ReadBy`: a join reads the target of a hop from its source.
* `Hop.Agrees`: two hops need the same join.

## Main statements

* `served_iff_coherent`: columns are read along their own paths exactly if hops to one alias agree.
* `not_served_diamond`: an entity for which they do not.
-/

namespace Schemata.Lowering

open Spec Sql Settings

/-! ## Joins that are right for a hop -/

/-- The column of the one field that identifies a model. -/
def keyColumn? (m : Model) : Option String :=
  (singleKey m).toOption.map fun k => Naming.columnName k.1

theorem keyColumn?_of_singleKey {m : Model} {k : String × Field} (h : singleKey m = .ok k) :
    keyColumn? m = some (Naming.columnName k.1) := by
  simp [keyColumn?, h, Except.toOption]

theorem dotless_keyColumn? {m : Model} {c : String} (h : keyColumn? m = some c) :
    '.' ∉ c.toList := by
  obtain ⟨k, -, rfl⟩ := Option.map_eq_some_iff.1 h
  exact Naming.notMem_columnName (by decide) k.1

/-- A join reads the target of a hop from its source: it joins the table of the target, on the one
condition that the key of the source is the key of the target. -/
def Hop.ReadBy (h : Hop) (j : Join) : Prop :=
  j.table = h.target.table ∧ ∃ a b, keyColumn? h.source.model = some a
    ∧ keyColumn? h.target.model = some b
    ∧ j.conditions = [⟨reference h.source.asName a, reference h.target.asName b⟩]

/-- Two hops come from the same column of the same alias and lead to the same column of the same
table. -/
structure Hop.Agrees (g h : Hop) : Prop where
  asName_eq : g.source.asName = h.source.asName
  sourceKey_eq : keyColumn? g.source.model = keyColumn? h.source.model
  table_eq : g.target.table = h.target.table
  targetKey_eq : keyColumn? g.target.model = keyColumn? h.target.model

theorem Hop.readBy_of_join {schema : String} {h : Hop} {j : Join} (hj : h.join schema = .ok j) :
    h.ReadBy j := by
  obtain ⟨source, target, hsource, htarget, rfl⟩ := Hop.join_ok.1 hj
  exact ⟨rfl, _, _, keyColumn?_of_singleKey hsource, keyColumn?_of_singleKey htarget, rfl⟩

theorem Hop.Agrees.readBy {g h : Hop} (ha : g.Agrees h) (hname : g.target.asName = h.target.asName)
    {j : Join} (hg : g.ReadBy j) : h.ReadBy j := by
  obtain ⟨htable, a, b, hsource, htarget, hconditions⟩ := hg
  refine ⟨htable.trans ha.table_eq, a, b, ha.sourceKey_eq ▸ hsource, ha.targetKey_eq ▸ htarget, ?_⟩
  rw [hconditions, ha.asName_eq, hname]

/-- What a condition refers to is determined by its text, so hops that one join reads agree. -/
theorem Hop.ReadBy.agrees {g h : Hop} {j : Join} (hg : g.ReadBy j) (hh : h.ReadBy j) :
    g.Agrees h := by
  obtain ⟨htable, a, b, hsource, htarget, hconditions⟩ := hg
  obtain ⟨htable', a', b', hsource', htarget', hconditions'⟩ := hh
  rw [hconditions] at hconditions'
  obtain ⟨hleft, hright⟩ := JoinCondition.mk.inj (List.cons.inj hconditions').1
  obtain ⟨hname, rfl⟩ := Naming.append_dot_inj (dotless_keyColumn? hsource)
    (dotless_keyColumn? hsource') hleft
  obtain ⟨-, rfl⟩ := Naming.append_dot_inj (dotless_keyColumn? htarget)
    (dotless_keyColumn? htarget') hright
  exact ⟨hname, hsource.trans hsource'.symm, htable.symm.trans htable',
    htarget.trans htarget'.symm⟩

/-! ## The joins of a view -/

/-- Every hop is read by the only join of its alias. -/
def Served (trips : List Trip) (v : View) : Prop :=
  ∀ t ∈ trips, ∀ h ∈ t.hops,
    ∃ j, v.joins.filter (·.asName == h.target.asName) = [j] ∧ h.ReadBy j

/-- Hops that lead to one alias agree. -/
def Coherent (trips : List Trip) : Prop :=
  ∀ t ∈ trips, ∀ t' ∈ trips, ∀ g ∈ t.hops, ∀ h ∈ t'.hops,
    g.target.asName = h.target.asName → g.Agrees h

/-- Every hop has one join of its alias, which is right for the first hop to that alias. -/
theorem Joined.exists_first {schema : String} {hops : List Hop} {joins : List Join}
    (hj : Joined schema hops joins) {h : Hop} (hh : h ∈ hops) :
    ∃ j g, joins.filter (·.asName == h.target.asName) = [j] ∧ g ∈ hops
      ∧ g.target.asName = h.target.asName ∧ g.ReadBy j := by
  obtain ⟨j, hmem, hname⟩ := List.mem_map.1 (hj.covers h hh)
  obtain ⟨g, hfind, hjoin⟩ := hj.made j hmem
  have hg := List.find?_some hfind
  rw [beq_iff_eq] at hg
  refine ⟨j, g, ?_, List.mem_of_find?_eq_some hfind, hg.trans hname, Hop.readBy_of_join hjoin⟩
  rw [← hname]
  exact filter_name_eq hj.nodup hmem

/-- In the view of an entity, each hop of each path has one join of its alias. The joins are right
for all hops exactly if hops to one alias agree. -/
theorem served_iff_coherent {s : EntitySettings} {r : Registry} {e : Entity} {v : View}
    (h : compileEntity s r e = .ok v) :
    ∃ trips, List.Forall₂ (fun f t => trip? r e f = some t) e.fields.entries trips
      ∧ (∀ t ∈ trips, t.start.asName = v.fromAlias)
      ∧ (∀ t ∈ trips, ∀ h ∈ t.hops, ∃ j, v.joins.filter (·.asName == h.target.asName) = [j])
      ∧ (Served trips v ↔ Coherent trips) := by
  obtain ⟨root, trips, hv⟩ := compileEntity_ok h
  have hmem {t : Trip} (ht : t ∈ trips) {h : Hop} (hh : h ∈ t.hops) :
      h ∈ trips.flatMap (·.hops) :=
    List.mem_flatMap.2 ⟨t, ht, hh⟩
  refine ⟨trips, hv.trips_eq, fun t ht => ?_, fun t ht h hh => ?_, fun hserved => ?_,
    fun hcoherent => ?_⟩
  · rw [(hv.along t ht).start_eq, hv.fromAlias_eq]
  · obtain ⟨j, -, hfilter, -⟩ := hv.joined.exists_first (hmem ht hh)
    exact ⟨j, hfilter⟩
  · intro t ht t' ht' g hg h hh hname
    obtain ⟨j, hfilter, hread⟩ := hserved t ht g hg
    obtain ⟨j', hfilter', hread'⟩ := hserved t' ht' h hh
    rw [← hname, hfilter] at hfilter'
    obtain rfl : j = j' := (List.cons.inj hfilter').1
    exact hread.agrees hread'
  · intro t ht h hh
    obtain ⟨j, g, hfilter, hg, hname, hread⟩ := hv.joined.exists_first (hmem ht hh)
    obtain ⟨t', ht', hg⟩ := List.mem_flatMap.1 hg
    exact ⟨j, hfilter, (hcoherent t' ht' t ht g hg h hh hname).readBy hname hread⟩

/-! ## Two ways to one model -/

namespace Diamond

/-- A model with a counted key. -/
def model (name : String) (related : List (String × Relation)) : Model :=
  { name := name
    fields := NameMap.ofList [("City", { type := .string }), ("ID", { type := .autoIncrement })]
    identifiers := NameMap.ofList [(primary, ["ID"])]
    related := NameMap.ofList related }

/-- A batch belongs to a person and lies in a box, and both have an address. -/
def registry : Registry :=
  { models := NameMap.ofList [
      ("Address", model "Address" []),
      ("Batch", model "Batch" [("Box", ⟨.forOne, "Box", none⟩),
        ("Person", ⟨.forOne, "Person", none⟩)]),
      ("Box", model "Box" [("Address", ⟨.forOne, "Address", none⟩)]),
      ("Person", model "Person" [("Address", ⟨.forOne, "Address", none⟩)])] }

/-- Batches with the cities of both addresses. -/
def entity : Entity :=
  { name := "Batch"
    fields := NameMap.ofList [("owned", { path := "Batch.Person.Address.City" }),
      ("stored", { path := "Batch.Box.Address.City" })] }

/-- Whether the path of a field hops from one alias to another. -/
def hopsFrom (source target : String) (f : String × EntityField) : Bool :=
  (trip? registry entity f).any fun t =>
    t.hops.any fun h => h.source.asName == source && h.target.asName == target

theorem exists_hop {trips : List Trip} (htrips : List.Forall₂
      (fun f t => trip? registry entity f = some t) entity.fields.entries trips)
    {source target : String} (h : entity.fields.entries.any (hopsFrom source target) = true) :
    ∃ t ∈ trips, ∃ h ∈ t.hops, h.source.asName = source ∧ h.target.asName = target := by
  obtain ⟨f, hf, hhops⟩ := List.any_eq_true.1 h
  obtain ⟨t, ht, htrip⟩ := exists_left_of_forall₂ htrips.flip hf
  simp only [hopsFrom, htrip, Option.any_some, List.any_eq_true, Bool.and_eq_true,
    beq_iff_eq] at hhops
  exact ⟨t, ht, hhops⟩

theorem evaluates : (compileEntity {} registry entity).toBool = true
    ∧ entity.fields.entries.any (hopsFrom "people" "addresses") = true
    ∧ entity.fields.entries.any (hopsFrom "boxes" "addresses") = true := by
  decide +kernel

end Diamond

/-- The city in which a batch is stored is read at the address of its owner. -/
theorem not_served_diamond : ∃ v trips, compileEntity {} Diamond.registry Diamond.entity = .ok v
    ∧ List.Forall₂ (fun f t => trip? Diamond.registry Diamond.entity f = some t)
      Diamond.entity.fields.entries trips
    ∧ ¬Served trips v := by
  obtain ⟨hok, hpeople, hboxes⟩ := Diamond.evaluates
  cases hv : compileEntity {} Diamond.registry Diamond.entity with
  | error e => simp [hv, Except.toBool] at hok
  | ok v =>
    obtain ⟨trips, htrips, -, -, hiff⟩ := served_iff_coherent hv
    refine ⟨v, trips, rfl, htrips, fun hserved => ?_⟩
    obtain ⟨t, ht, g, hg, hsource, htarget⟩ := Diamond.exists_hop htrips hpeople
    obtain ⟨t', ht', h, hh, hsource', htarget'⟩ := Diamond.exists_hop htrips hboxes
    have hagrees := hiff.1 hserved t ht t' ht' g hg h hh (htarget.trans htarget'.symm)
    have hsame : "people" = "boxes" := hsource ▸ hsource' ▸ hagrees.asName_eq
    exact absurd hsame (by decide)

end Schemata.Lowering
