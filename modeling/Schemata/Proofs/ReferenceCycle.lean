import Schemata.Proofs.Dependencies
import Schemata.Proofs.Emission

/-!
# Models that cannot be put in order

A compilation whose units are all fine and whose tables have distinct keys can still fail, when the
tables cannot be put in order. That comes from the references between models and from nothing else:
two or more models that refer to each other in a circle, each to one target. References to many,
relations that the other side holds, and references of a model to itself make no circle.

## Main statements

* `Compiler.compileAll_fails_order`: when a compilation fails for the order of the tables.
* `Units.Of.exists_isCycle_iff`: the tables cannot be put in order where models refer in a circle.
* `Units.Of.exists_members`: what is reported are the tables of the models on such circles.
* `compileAll_cycle_iff`: the same about whole compilations.
-/

namespace Schemata.Emission

open Lowering Relation Spec Sql

variable {σ : Type}

/-! ## Where a compilation fails -/

theorem Writers.forKind_eq_error {w : Writers σ} {kind : Kind} {e : CompileError}
    (h : w.forKind kind = .error e) : e = .missingStructureWriter := by
  unfold Writers.forKind at h
  split at h
  case h_4 =>
    split at h
    · cases h
    · exact (Except.error.inj h).symm
  all_goals cases h

namespace Compiler

/-- Writing tables does not fail for their order. -/
theorem writeTables_not_order (c : Compiler σ) {w : Writers σ} {ts : List Table}
    {sources : NameMap Source} {s : Schema} {st st' : σ} {o : OrderError} :
    ¬ (c.writeTables w ts sources s).Fails st (.order o) st' := by
  induction ts generalizing sources s st with
  | nil => exact Step.not_fails_pure
  | cons t ts ih =>
    unfold writeTables
    split
    · exact ih
    · intro h
      rcases Step.fails_bind.1 h with hwriter | ⟨_, _, -, h⟩
      · cases Writers.forKind_eq_error (Step.fails_ofExcept.1 hwriter).1
      · rcases Step.fails_bind.1 h with hwrite | ⟨_, _, -, hrest⟩
        · obtain ⟨_, -, hcause⟩ := Step.fails_inUnit.1 hwrite
          cases hcause
        · exact ih hrest

/-- Writing views does not fail for the order of tables. -/
theorem writeViews_not_order (c : Compiler σ) {w : Writers σ} {views : List (String × View)}
    {s : Schema} {st st' : σ} {o : OrderError} :
    ¬ (c.writeViews w views s).Fails st (.order o) st' := by
  induction views generalizing s st with
  | nil => exact Step.not_fails_pure
  | cons x views ih =>
    intro h
    rcases Step.fails_bind.1 h with hwrite | ⟨_, _, -, hrest⟩
    · obtain ⟨_, -, hcause⟩ := Step.fails_inUnit.1 hwrite
      cases hcause
    · exact ih hrest

theorem ready_eq_ok {settings : Settings} {w : Writers σ} :
    (ofSettings settings : Compiler σ).ready w = .ok () ↔
      settings.check = .ok ()
        ∧ (settings.structures.persistent = true → w.structures.isSome = true) := by
  have hcheck : settings.linked.check = settings.check := rfl
  have hstructures : settings.linked.structures = settings.structures := rfl
  simp only [ready, ofSettings, hcheck, hstructures, bind_eq_ok, mapError_eq_ok]
  cases settings.structures.persistent <;> cases w.structures <;>
    simp [Unique.exists_iff]

theorem ready_ne_order {c : Compiler σ} {w : Writers σ} {o : OrderError} :
    c.ready w ≠ .error (.order o) := by
  unfold ready
  cases c.settings.check <;> cases c.settings.structures.persistent <;> cases w.structures <;>
    nofun

variable {settings : Settings} {r : Registry} [Nonempty σ]

/-- A compilation whose units are fine fails for the order of the tables when it starts at all and
they cannot be put in order. -/
theorem compileAll_fails_order {u : Units} (hu : u.Of (ofSettings settings : Compiler σ) r)
    {w : Writers σ} {o : OrderError} {st st' : σ} :
    ((ofSettings settings : Compiler σ).compileAll r w).Fails st (.order o) st' ↔
      (ofSettings settings : Compiler σ).ready w = .ok ()
        ∧ inOrder (u.products.map (·.table)) = .error o ∧ st = st' := by
  rw [compileAll_eq hu, Step.fails_bind]
  constructor
  · rintro (hready | ⟨_, _, hstart, h⟩)
    · exact absurd (Step.fails_ofExcept.1 hready).1 ready_ne_order
    · obtain ⟨hready, rfl⟩ := Step.yields_ofExcept.1 hstart
      refine ⟨hready, ?_⟩
      rcases Step.fails_bind.1 h with hfail | ⟨_, _, -, h⟩
      · obtain ⟨hmapped, rfl⟩ := Step.fails_ofExcept.1 hfail
        obtain ⟨_, horder, hcause⟩ := mapError_eq_error.1 hmapped
        cases hcause
        exact ⟨horder, rfl⟩
      · rcases Step.fails_bind.1 h with h | ⟨_, _, -, h⟩
        · exact absurd h (writeTables_not_order _)
        · exact absurd h (writeViews_not_order _)
  · rintro ⟨hready, horder, rfl⟩
    refine .inr ⟨(), st, Step.yields_ofExcept.2 ⟨hready, rfl⟩, Step.fails_bind.2 (.inl ?_)⟩
    exact Step.fails_ofExcept.2 ⟨mapError_eq_error.2 ⟨o, horder, rfl⟩, rfl⟩

end Compiler

/-! ## Circles of references -/

/-- Models that refer to themselves only make no circle. -/
theorem not_exists_isCycle_of_self {r : Registry}
    (h : ∀ source target, r.RefersTo source target → source = target) :
    ¬ ∃ cycle, IsCycle r.RefersTo cycle ∧ 2 ≤ cycle.length := by
  rintro ⟨cycle, hcycle, hlength⟩
  obtain ⟨name, hname⟩ := List.exists_mem_of_ne_nil cycle hcycle.ne_nil
  obtain ⟨other, hne, hgo, -⟩ := Schemata.exists_isCycle_iff.1 ⟨cycle, hcycle, hlength, hname⟩
  refine hne ?_
  clear hne
  induction hgo with
  | refl => rfl
  | tail _ hstep ih => exact (h _ _ hstep).symm.trans ih

namespace Units.Of

variable {settings : Settings} {r : Registry} {u : Units} [Nonempty σ]

theorem exists_of_isCycle (hu : u.Of (Compiler.ofSettings settings : Compiler σ) r)
    {cycle : List String} (h : IsCycle r.RefersTo cycle) {name : String} (hname : name ∈ cycle) :
    ∃ ts, (name, ts) ∈ u.models := by
  obtain ⟨_, -, _, _, _, -, -, -, -, m, hm⟩ := h.exists_rel hname
  obtain ⟨ts, hts, -⟩ := hu.exists_models hm
  exact ⟨ts, hts⟩

/-- The tables cannot be put in order exactly if two or more models refer to each other in a
circle. -/
theorem exists_isCycle_iff (hu : u.Of (Compiler.ofSettings settings : Compiler σ) r)
    (hkeys : (u.products.map (·.table.key)).Nodup) :
    (∃ cycle, IsCycle (Awaits (u.products.map (·.table))) cycle) ↔
      ∃ cycle, IsCycle r.RefersTo cycle ∧ 2 ≤ cycle.length := by
  constructor
  · rintro ⟨cycle, hcycle⟩
    obtain ⟨t, ht⟩ := List.exists_mem_of_ne_nil cycle hcycle.ne_nil
    obtain ⟨_, -, hawaits⟩ := hcycle.exists_rel ht
    obtain ⟨y, hy, rfl⟩ := hu.exists_of_awaits hkeys hawaits
    obtain ⟨names, hnames, hlength, -⟩ :=
      (hu.mem_isCycle_iff hkeys hy).1 ⟨cycle, hcycle, hu.two_le_length hkeys hcycle, ht⟩
    exact ⟨names, hnames, hlength⟩
  · rintro ⟨names, hnames, hlength⟩
    obtain ⟨name, hname⟩ := List.exists_mem_of_ne_nil names hnames.ne_nil
    obtain ⟨ts, hts⟩ := hu.exists_of_isCycle hnames hname
    obtain ⟨cycle, hcycle, -⟩ :=
      (hu.mem_isCycle_iff hkeys hts).2 ⟨names, hnames, hlength, hname⟩
    exact ⟨cycle, hcycle⟩

/-- What is reported then are the names of the tables of the models on such circles. -/
theorem exists_members (hu : u.Of (Compiler.ofSettings settings : Compiler σ) r)
    (hkeys : (u.products.map (·.table.key)).Nodup) :
    ∃ members : List (String × ModelTables), members.Sublist u.models
      ∧ (∀ x ∈ u.models, x ∈ members ↔
        ∃ cycle, IsCycle r.RefersTo cycle ∧ 2 ≤ cycle.length ∧ x.1 ∈ cycle)
      ∧ (onCycle (u.products.map (·.table))).Perm
        (members.map (·.2.table.qualifiedName)) := by
  have hkeys' : ((u.products.map (·.table)).map Table.key).Nodup := by rwa [List.map_map]
  obtain ⟨ts, hsub, hts, hperm⟩ := exists_onCycle_perm hkeys'
  obtain ⟨members, hmembers⟩ :
      ∃ members, members = u.models.filter fun x => decide (x.2.table ∈ ts) := ⟨_, rfl⟩
  have hmem (x : String × ModelTables) : x ∈ members ↔ x ∈ u.models ∧ x.2.table ∈ ts := by
    simp [hmembers]
  have hsublist : members.Sublist u.models := hmembers ▸ List.filter_sublist
  -- every table on a cycle is that of a model, so the two lists have the same tables
  have htables : ts.Perm (members.map (·.2.table)) := by
    refine (List.perm_ext_iff_of_nodup ?_ ?_).2 fun t => ?_
    · exact (List.Nodup.of_map _ hkeys').sublist hsub
    · have hnodup : (u.models.map (·.1)).Nodup := hu.model_names ▸ r.models.nodup_names
      refine List.Nodup.map_on (fun x hx y hy heq => ?_)
        ((List.Nodup.of_map _ hnodup).sublist hsublist)
      exact hu.eq_of_tableKey hkeys ((hmem x).1 hx).1 ((hmem y).1 hy).1 (congrArg Table.key heq)
    · rw [List.mem_map]
      constructor
      · intro ht
        obtain ⟨cycle, hcycle, -, htcycle⟩ := (hts t).1 ht
        obtain ⟨_, -, hawaits⟩ := hcycle.exists_rel htcycle
        obtain ⟨y, hy, rfl⟩ := hu.exists_of_awaits hkeys hawaits
        exact ⟨y, (hmem y).2 ⟨hy, ht⟩, rfl⟩
      · rintro ⟨x, hx, rfl⟩
        exact ((hmem x).1 hx).2
  refine ⟨members, hsublist, fun x hx => ?_, hperm.trans ?_⟩
  · rw [hmem, hts, hu.mem_isCycle_iff hkeys hx, and_iff_right hx]
  · simpa only [List.map_map, Function.comp_def] using htables.map Table.qualifiedName

end Units.Of

/-- A compilation whose units are fine and whose tables have distinct keys fails for a cycle exactly
if its settings are valid, there is a writer for the structures that are kept, and two or more
models refer to each other in a circle, each to one target. It reports the tables of the models on
such circles, by the bytes of their names, and there are some. Other relations, and those of models
to themselves, never keep the tables from being put in order. -/
theorem compileAll_cycle_iff {settings : Settings} {r : Registry} {u : Units}
    (hu : u.Of (Compiler.ofSettings settings : Compiler σ) r)
    (hkeys : (u.products.map (·.table.key)).Nodup) (w : Writers σ) (st : σ) :
    ((∃ names st', ((Compiler.ofSettings settings).compileAll r w).Fails st
        (.order (.cycle names)) st')
      ↔ settings.check = .ok ()
        ∧ (settings.structures.persistent = true → w.structures.isSome = true)
        ∧ ∃ cycle, IsCycle r.RefersTo cycle ∧ 2 ≤ cycle.length)
    ∧ (∀ names st', ((Compiler.ofSettings settings).compileAll r w).Fails st
        (.order (.cycle names)) st' →
      names ≠ [] ∧ names.Pairwise (fun a b => Text.utf8 a ≤ Text.utf8 b)
      ∧ ∃ members : List (String × ModelTables), members.Sublist u.models
        ∧ (∀ x ∈ u.models, x ∈ members ↔
          ∃ cycle, IsCycle r.RefersTo cycle ∧ 2 ≤ cycle.length ∧ x.1 ∈ cycle)
        ∧ names.Perm (members.map (·.2.table.qualifiedName)))
    ∧ ((∃ ordered, inOrder (u.products.map (·.table)) = .ok ordered)
      ↔ ¬ ∃ cycle, IsCycle r.RefersTo cycle ∧ 2 ≤ cycle.length)
    ∧ ((∀ source target, r.RefersTo source target → source = target) →
      ∃ ordered, inOrder (u.products.map (·.table)) = .ok ordered) := by
  have : Nonempty σ := ⟨st⟩
  have hkeys' : ((u.products.map (·.table)).map Table.key).Nodup := by rwa [List.map_map]
  have hordered : (∃ ordered, inOrder (u.products.map (·.table)) = .ok ordered)
      ↔ ¬ ∃ cycle, IsCycle r.RefersTo cycle ∧ 2 ≤ cycle.length := by
    rw [exists_inOrder_ok_iff hkeys', ← hu.exists_isCycle_iff hkeys, not_exists]
  have hfails (names : List String) (st' : σ) :
      ((Compiler.ofSettings settings).compileAll r w).Fails st (.order (.cycle names)) st' ↔
        (settings.check = .ok ()
          ∧ (settings.structures.persistent = true → w.structures.isSome = true))
        ∧ (names = onCycle (u.products.map (·.table))
          ∧ ∃ cycle, IsCycle r.RefersTo cycle ∧ 2 ≤ cycle.length)
        ∧ st = st' := by
    rw [Compiler.compileAll_fails_order hu, Compiler.ready_eq_ok, inOrder_eq_cycle_iff hkeys',
      hu.exists_isCycle_iff hkeys]
  refine ⟨?_, ?_, hordered, fun hself => hordered.2 (not_exists_isCycle_of_self hself)⟩
  · simp only [hfails]
    constructor
    · rintro ⟨_, _, ⟨hcheck, hwriter⟩, ⟨-, hcycle⟩, -⟩
      exact ⟨hcheck, hwriter, hcycle⟩
    · rintro ⟨hcheck, hwriter, hcycle⟩
      exact ⟨_, st, ⟨hcheck, hwriter⟩, ⟨rfl, hcycle⟩, rfl⟩
  · intro names st' h
    obtain ⟨-, ⟨rfl, cycle, hcycle, hlength⟩, -⟩ := (hfails names st').1 h
    obtain ⟨members, hsub, hmembers, hperm⟩ := hu.exists_members hkeys
    refine ⟨fun hnil => ?_, pairwise_onCycle _, members, hsub, hmembers, hperm⟩
    obtain ⟨name, hname⟩ := List.exists_mem_of_ne_nil cycle hcycle.ne_nil
    obtain ⟨ts, hts⟩ := hu.exists_of_isCycle hcycle hname
    have hmem := (hmembers _ hts).2 ⟨cycle, hcycle, hlength, hname⟩
    rw [hnil] at hperm
    rw [List.map_eq_nil_iff.1 hperm.nil_eq.symm] at hmem
    cases hmem

/-! ## A circle of two models -/

namespace Sample

/-- Companies have an owner among people, and people a company and a manager among themselves. Tags
refer into the circle, and people refer to many tags. -/
def circle : Registry :=
  { models := NameMap.ofList [
      ("Company", model "Company" [("Owner", ⟨.forOne, "Owner", some "Person"⟩)]),
      ("Person", model "Person" [("Company", ⟨.forOne, "Company", none⟩),
        ("Manager", ⟨.forOne, "Manager", some "Person"⟩), ("Tag", ⟨.forMany, "Tag", none⟩)]),
      ("Tag", model "Tag" [("Company", ⟨.forOne, "Company", none⟩),
        ("Person", ⟨.hasMany, "Person", none⟩)])] }

/-- The schema of enumerations is blank, which matters to no unit where there are none. -/
def blankSchema : Settings := { enumerations := { schema := "" } }

theorem isCycle_circle : IsCycle circle.RefersTo ["Company", "Person"] := by
  have hto : circle.RefersTo "Company" "Person" :=
    ⟨_, "Owner", ⟨.forOne, "Owner", some "Person"⟩, rfl, by decide +kernel, rfl, rfl, _, rfl⟩
  have hback : circle.RefersTo "Person" "Company" :=
    ⟨_, "Company", ⟨.forOne, "Company", none⟩, rfl, by decide +kernel, rfl, rfl, _, rfl⟩
  exact ⟨by decide, by simpa using hto, "Company", "Person", rfl, rfl, hback⟩

/-- Where the parts come out with distinct keys, there are units. What is tested of their tables
holds of the tables of the units. -/
theorem exists_units (settings : Settings) (r : Registry) (p : List Table → Bool)
    (h : (match ((Compiler.ofSettings settings : Compiler Unit).parts r).outcome () with
      | (.ok x, _) => decide (x.1.map (·.table.key)).Nodup && p (x.1.map (·.table))
      | (.error _, _) => false) = true) :
    ∃ u : Units, u.Of (Compiler.ofSettings settings : Compiler Unit) r
      ∧ (u.products.map (·.table.key)).Nodup ∧ p (u.products.map (·.table)) = true := by
  split at h
  · rename_i x st hout
    obtain ⟨-, u, hu, rfl⟩ := Compiler.yields_parts hout
    obtain ⟨hkeys, hp⟩ := Bool.and_eq_true_iff.1 h
    exact ⟨u, hu, of_decide_eq_true hkeys, hp⟩
  · cases h

/-- Whether the tables of companies and people are the ones that wait for each other. -/
def twoWait (batch : List Table) : Bool :=
  (batch.filter fun t => batch.any fun u => waitMutually (t, reach batch t) (u, reach batch u)).map
    (·.qualifiedName) == ["public.companies", "public.people"]

theorem onCycle_of_twoWait {batch : List Table} (h : twoWait batch = true) :
    onCycle batch = ["public.companies", "public.people"] := by
  rw [onCycle_eq, eq_of_beq h]
  exact List.mergeSort_of_pairwise (by decide)

end Sample

/-- Two models that refer to each other, one of them under another name, are reported; the one that
refers to them and the joining table are not. -/
theorem compileAll_cycle_iff_circle :
    IsCycle Sample.circle.RefersTo ["Company", "Person"]
    ∧ ∃ u : Units, u.Of (Compiler.ofSettings {} : Compiler Unit) Sample.circle
      ∧ (u.products.map (·.table.key)).Nodup
      ∧ ((Compiler.ofSettings {}).compileAll Sample.circle {}).Fails ()
          (.order (.cycle ["public.companies", "public.people"])) ()
      ∧ ∃ members : List (String × ModelTables), members.Sublist u.models
        ∧ (∀ x ∈ u.models, x ∈ members ↔
          ∃ cycle, IsCycle Sample.circle.RefersTo cycle ∧ 2 ≤ cycle.length ∧ x.1 ∈ cycle)
        ∧ ["public.companies", "public.people"].Perm
          (members.map (·.2.table.qualifiedName)) := by
  obtain ⟨u, hu, hkeys, hwait⟩ :=
    Sample.exists_units {} Sample.circle Sample.twoWait (by decide +kernel)
  obtain ⟨hiff, hreported, -⟩ := compileAll_cycle_iff hu hkeys {} ()
  obtain ⟨names, st', hfails⟩ :=
    hiff.2 ⟨by decide +kernel, by simp, _, Sample.isCycle_circle, by simp⟩
  obtain rfl : names = ["public.companies", "public.people"] := by
    have hkeys' : ((u.products.map (·.table)).map Table.key).Nodup := by rwa [List.map_map]
    obtain ⟨-, horder, -⟩ := (Compiler.compileAll_fails_order hu).1 hfails
    rw [((inOrder_eq_cycle_iff hkeys').1 horder).1, Sample.onCycle_of_twoWait hwait]
  obtain ⟨-, -, hmembers⟩ := hreported _ st' hfails
  exact ⟨Sample.isCycle_circle, u, hu, hkeys, hfails, hmembers⟩

/-- Units that are all fine and refer to each other in a circle are not reported where the settings
are not valid: that is found first. -/
theorem not_fails_cycle_of_blankSchema :
    ∃ u : Units, u.Of (Compiler.ofSettings Sample.blankSchema : Compiler Unit) Sample.circle
      ∧ (u.products.map (·.table.key)).Nodup
      ∧ (∃ cycle, IsCycle Sample.circle.RefersTo cycle ∧ 2 ≤ cycle.length)
      ∧ ∀ names st', ¬ ((Compiler.ofSettings Sample.blankSchema).compileAll Sample.circle {}).Fails
        () (.order (.cycle names)) st' := by
  obtain ⟨u, hu, hkeys, -⟩ := Sample.exists_units Sample.blankSchema Sample.circle
    (fun _ => true) (by decide +kernel)
  refine ⟨u, hu, hkeys, ⟨_, Sample.isCycle_circle, by simp⟩, fun names st' hfails => ?_⟩
  have hready := ((Compiler.compileAll_fails_order hu).1 hfails).1
  rw [Compiler.ready_eq_ok] at hready
  exact absurd hready.1 (by decide +kernel)

end Schemata.Emission
