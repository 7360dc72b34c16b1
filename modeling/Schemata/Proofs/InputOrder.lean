import Schemata.Proofs.OrderOutcome

/-!
# The order in which tables are given

Tables are looked at in the order in which they are given: when those that can come first are
picked, when the numbers of those that wait are counted down, and when a search for cycles begins.
None of that is seen in the outcome. What a table waits for depends on the set of tables alone,
ranks decide between two that can come next, and names are reported in their own order. Only which
of several repeated tables is reported depends on where they stand.

## Main statements

* `awaits_perm`: dependencies do not depend on the order of a batch.
* `onCycle_perm`: nor do the names that are reported.
* `inOrder_perm`: the outcome for a batch and for a permutation of it.
-/

namespace Schemata.Sql

variable {batch batch' : List Table}

theorem awaits_perm (h : batch.Perm batch') : Awaits batch = Awaits batch' := by
  funext t u
  simp only [Awaits, h.mem_iff]

/-- The same tables lie on cycles, and their names are reported in one order. -/
theorem onCycle_perm (h : batch.Perm batch') (hkeys : (batch.map Table.key).Nodup) :
    onCycle batch = onCycle batch' := by
  have hkeys' : (batch'.map Table.key).Nodup := (h.map Table.key).nodup_iff.1 hkeys
  obtain ⟨ts, hsub, hmem, hperm⟩ := exists_onCycle_perm hkeys
  obtain ⟨ts', hsub', hmem', hperm'⟩ := exists_onCycle_perm hkeys'
  have hsame : ts.Perm ts' := by
    refine (List.perm_ext_iff_of_nodup ?_ ?_).2 fun t => ?_
    · exact (List.Nodup.of_map _ hkeys).sublist hsub
    · exact (List.Nodup.of_map _ hkeys').sublist hsub'
    · rw [hmem, hmem', awaits_perm h]
  have hnames : (onCycle batch).Perm (onCycle batch') :=
    hperm.trans ((hsame.map Table.qualifiedName).trans hperm'.symm)
  refine hnames.eq_of_pairwise ?_ (pairwise_onCycle batch) (pairwise_onCycle batch')
  intro a b _ _ hab hba
  exact String.le_antisymm (Text.le_iff_utf8_le.2 hab) (Text.le_iff_utf8_le.2 hba)

/-- There is one greedy order, however the tables are given. -/
theorem inOrder_ok_perm (h : batch.Perm batch') {out out' : List Table}
    (hout : inOrder batch = .ok out) (hout' : inOrder batch' = .ok out') : out = out' := by
  have hall : ∀ t, t ∈ batch ↔ t ∈ batch' ∧ true = true := by
    intro t
    simp [h.mem_iff]
  have hfilter := inOrder_filter hout hout' (fun _ => true) hall
    fun t _ u hu _ => h.mem_iff.2 hu
  simpa using hfilter.symm

/-- A batch with a repeated key is refused for a table whose key is repeated. -/
theorem inOrder_of_repeated (h : ¬ (batch.map Table.key).Nodup) :
    ∃ t ∈ batch, 2 ≤ (batch.map Table.key).count t.key
      ∧ inOrder batch = .error (.duplicate t.qualifiedName) := by
  cases hfirst : firstRepeated [] batch with
  | none => exact absurd (firstRepeated_eq_none_iff.1 hfirst).1 h
  | some t =>
    obtain ⟨before, after, rfl, -, -, hseen⟩ := firstRepeated_eq_some hfirst
    have hbefore : 0 < (before.map Table.key).count t.key :=
      List.count_pos_iff.2 (hseen.resolve_left (by simp))
    refine ⟨t, by simp, ?_, by rw [inOrder, hfirst]⟩
    simp only [List.map_append, List.map_cons, List.count_append, List.count_cons_self]
    omega

/-- However the tables of a batch are given: if no two of them have one key, they are put in the
same order, or the same names are reported for their cycles. Otherwise a table whose key is repeated
is reported, though not always the same. -/
theorem inOrder_perm (h : batch.Perm batch') :
    ((batch.map Table.key).Nodup →
      (∃ out, inOrder batch = .ok out ∧ inOrder batch' = .ok out)
      ∨ ∃ names, inOrder batch = .error (.cycle names) ∧ inOrder batch' = .error (.cycle names))
    ∧ (¬ (batch.map Table.key).Nodup →
      (∃ t ∈ batch, 2 ≤ (batch.map Table.key).count t.key
        ∧ inOrder batch = .error (.duplicate t.qualifiedName))
      ∧ ∃ t ∈ batch', 2 ≤ (batch'.map Table.key).count t.key
        ∧ inOrder batch' = .error (.duplicate t.qualifiedName)) := by
  have hkeys := (h.map Table.key).nodup_iff
  refine ⟨fun hnodup => ?_, fun hrepeated => ?_⟩
  · by_cases hcycle : ∃ cycle, IsCycle (Awaits batch) cycle
    · obtain ⟨cycle, hcycle⟩ := hcycle
      refine .inr ⟨onCycle batch, inOrder_eq_cycle hnodup hcycle, ?_⟩
      rw [onCycle_perm h hnodup]
      exact inOrder_eq_cycle (hkeys.1 hnodup) (awaits_perm h ▸ hcycle)
    · rw [not_exists] at hcycle
      obtain ⟨out, hout⟩ := (exists_inOrder_ok_iff hnodup).2 hcycle
      obtain ⟨out', hout'⟩ := (exists_inOrder_ok_iff (hkeys.1 hnodup)).2 (awaits_perm h ▸ hcycle)
      refine .inl ⟨out, hout, ?_⟩
      rw [inOrder_ok_perm h hout hout']
      exact hout'
  · exact ⟨inOrder_of_repeated hrepeated,
      inOrder_of_repeated fun hnodup => hrepeated (hkeys.2 hnodup)⟩

/-- Backwards, tables of one name in two schemas, one of which is referred to twice, come in the
same order, and two tables that wait for each other are reported in the same order. Where two keys
are repeated, one of them is reported. -/
theorem inOrder_perm_reverse :
    let near := sketch "app" "a" []
    let far := sketch "web" "a" []
    let twice := sketch "app" "Z" ["a", "a"]
    let left := sketch "app" "l" ["r", "r"]
    let right := sketch "app" "r" ["l"]
    (([twice, far, near].map Table.key).Nodup
      ∧ inOrder [twice, far, near] = .ok [near, twice, far]
      ∧ inOrder [twice, far, near].reverse = .ok [near, twice, far])
    ∧ (([left, right, far].map Table.key).Nodup
      ∧ inOrder [left, right, far] = .error (.cycle ["app.l", "app.r"])
      ∧ inOrder [left, right, far].reverse = .error (.cycle ["app.l", "app.r"]))
    ∧ ¬ ([near, far, near, far].map Table.key).Nodup
      ∧ ∃ t ∈ [near, far, near, far].reverse,
        inOrder [near, far, near, far].reverse = .error (.duplicate t.qualifiedName) := by
  intro near far twice left right
  have hkeys : ([twice, far, near].map Table.key).Nodup := by decide
  have hkeys' : ([left, right, far].map Table.key).Nodup := by decide
  have hrepeated : ¬ ([near, far, near, far].map Table.key).Nodup := by decide
  have hordered : inOrder [twice, far, near] = .ok [near, twice, far] := by decide +kernel
  have hcycle : inOrder [left, right, far] = .error (.cycle ["app.l", "app.r"]) := by cbv
  refine ⟨⟨hkeys, hordered, ?_⟩, ⟨hkeys', hcycle, ?_⟩, hrepeated, ?_⟩
  · rcases (inOrder_perm (List.reverse_perm _).symm).1 hkeys with ⟨_, hout, hsame⟩ | ⟨_, hfail, -⟩
    · rw [hsame, ← hout, hordered]
    · cases hordered.symm.trans hfail
  · rcases (inOrder_perm (List.reverse_perm _).symm).1 hkeys' with ⟨_, hok, -⟩ | ⟨_, hout, hsame⟩
    · cases hcycle.symm.trans hok
    · rw [hsame, ← hout, hcycle]
  · obtain ⟨-, t, ht, -, hfail⟩ := (inOrder_perm (List.reverse_perm _).symm).2 hrepeated
    exact ⟨t, ht, hfail⟩

end Schemata.Sql
