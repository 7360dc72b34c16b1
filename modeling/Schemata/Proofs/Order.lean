import Schemata.Sql.Order

/-!
# The order of creation is a dependency order

The creation of a batch is followed by one invariant, `Progress.Sound`. It says what the numbers
kept with the waiting tables mean: each is the number of tables, among those not created yet, that
its table depends on. A step keeps the invariant, so it holds when nothing can come next any more,
and an order that is returned has every table of the batch, each after the tables it depends on.

## Main statements

* `Progress.Sound`: the invariant; `Progress.Sound.step`, `Progress.Sound.finish`: steps and runs.
* `inOrder_ok`: what holds of an order that is returned.
-/

namespace Schemata.Sql

/-! ## Orders -/

/-- Every table comes after the tables it depends on: it depends neither on itself nor on a table
that comes later. -/
structure DependencyOrdered (ts : List Table) : Prop where
  later : ts.Pairwise fun t u => t.dependsOn u = false
  self : ∀ t ∈ ts, t.dependsOn t = false

/-- In a dependency order, what a table depends on stands before it. -/
theorem DependencyOrdered.mem_before {before after : List Table} {t u : Table}
    (h : DependencyOrdered (before ++ t :: after)) (hu : u ∈ before ++ t :: after)
    (hd : t.dependsOn u = true) : u ∈ before := by
  have hlater := (List.pairwise_cons.1 (List.pairwise_append.1 h.later).2.1).1
  rcases List.mem_append.1 hu with hu | hu
  · exact hu
  · rcases List.mem_cons.1 hu with rfl | hu
    · simp [h.self u (by simp)] at hd
    · simp [hlater u hu] at hd

/-! ## Repeated keys -/

theorem firstRepeated_eq_none_iff {seen : List (String × String)} {ts : List Table} :
    firstRepeated seen ts = none ↔ (ts.map Table.key).Nodup ∧ ∀ t ∈ ts, t.key ∉ seen := by
  induction ts generalizing seen with
  | nil => simp [firstRepeated]
  | cons t rest ih =>
    unfold firstRepeated
    split
    · rename_i h
      have hmem : t.key ∈ seen := by simpa using h
      simp [hmem]
    · rename_i h
      have hmem : t.key ∉ seen := by simpa using h
      rw [ih]
      simp only [List.mem_cons, not_or, List.map_cons, List.nodup_cons, List.mem_map,
        not_exists, not_and, forall_eq_or_imp]
      constructor
      · rintro ⟨hnodup, hrest⟩
        exact ⟨⟨fun u hu => (hrest u hu).1, hnodup⟩, hmem, fun u hu => (hrest u hu).2⟩
      · rintro ⟨⟨hne, hnodup⟩, -, hrest⟩
        exact ⟨hnodup, fun u hu => ⟨hne u hu, hrest u hu⟩⟩

/-! ## The tables that can come next -/

theorem insertReady_perm (t : Table) (ready : List Table) :
    (insertReady t ready).Perm (t :: ready) := by
  induction ready with
  | nil => exact .refl _
  | cons u rest ih =>
    unfold insertReady
    split
    · exact .refl _
    · exact (ih.cons u).trans (.swap t u rest)

theorem insertAllReady_perm (ts ready : List Table) :
    (insertAllReady ts ready).Perm (ts ++ ready) := by
  induction ts with
  | nil => exact .refl _
  | cons t ts ih => exact (insertReady_perm t _).trans (ih.cons t)

/-! ## The invariant -/

/-- The tables that are not created yet. -/
def Progress.pending (p : Progress) : List Table := p.ready ++ p.waiting.map (·.table)

/-- What holds at every point of the creation of a batch. -/
structure Progress.Sound (batch : List Table) (p : Progress) : Prop where
  /-- No table is lost or made twice. -/
  perm : (p.created ++ p.pending).Perm batch
  /-- A table that can come next waits for none. -/
  ready_free : ∀ t ∈ p.ready, p.pending.countP t.dependsOn = 0
  /-- A table that waits knows for how many. -/
  count_eq : ∀ w ∈ p.waiting, w.count = p.pending.countP w.table.dependsOn
  count_ne_zero : ∀ w ∈ p.waiting, w.count ≠ 0
  ordered : DependencyOrdered p.created
  /-- A table that is created depends on none of the others. -/
  settled : ∀ t ∈ p.created, ∀ u ∈ p.pending, t.dependsOn u = false

@[simp] theorem Waiting.table_after (t : Table) (w : Waiting) : (w.after t).table = w.table := by
  unfold Waiting.after
  split <;> rfl

/-- Tables that wait, split by whether they still do, with those that can come next. -/
theorem split_waiting_perm (ws : List Waiting) (ready : List Table) :
    (insertAllReady ((ws.filter (·.count == 0)).map (·.table)) ready
      ++ (ws.filter (·.count != 0)).map (·.table)).Perm (ready ++ ws.map (·.table)) := by
  have hsplit : ((ws.filter (·.count == 0)).map (·.table)
      ++ (ws.filter (·.count != 0)).map (·.table)).Perm (ws.map (·.table)) := by
    rw [← List.map_append]
    exact (List.filter_append_perm (fun w : Waiting => w.count == 0) ws).map _
  refine ((insertAllReady_perm _ ready).append_right _).trans ?_
  rw [List.append_assoc]
  exact (List.perm_append_comm_assoc _ _ _).trans (hsplit.append_left ready)

/-- What is pending before a step is the table that it creates and what is pending after it. -/
theorem Progress.pending_step {p : Progress} {t : Table} {rest : List Table}
    (h : p.ready = t :: rest) : p.pending.Perm (t :: (p.step t rest).pending) := by
  have htables : (p.waiting.map (·.after t)).map (·.table) = p.waiting.map (·.table) := by
    simp [List.map_map, Function.comp_def]
  have hsplit := split_waiting_perm (p.waiting.map (·.after t)) rest
  rw [htables] at hsplit
  rw [pending, h, List.cons_append]
  exact (hsplit.cons t).symm

theorem Progress.start_pending_perm (batch : List Table) :
    (Progress.start batch).pending.Perm batch := by
  have hsplit := split_waiting_perm (batch.map fun t => Waiting.mk t (waitCount batch t)) []
  have htables : (batch.map fun t => Waiting.mk t (waitCount batch t)).map (·.table) = batch := by
    simp [List.map_map, Function.comp_def]
  rw [htables] at hsplit
  exact hsplit

/-- The invariant holds at the beginning. -/
theorem Progress.Sound.start (batch : List Table) : (Progress.start batch).Sound batch := by
  have hperm := Progress.start_pending_perm batch
  have hcount (t : Table) :
      waitCount batch t = (Progress.start batch).pending.countP t.dependsOn := by
    rw [hperm.countP_eq, List.countP_eq_length_filter, waitCount]
  refine ⟨by simpa [Progress.start] using hperm, fun t ht => ?_, fun w hw => ?_, fun w hw => ?_,
    ⟨.nil, by simp [Progress.start]⟩, by simp [Progress.start]⟩
  · have hmem := (insertAllReady_perm _ []).mem_iff.1 ht
    obtain ⟨w, hw, rfl⟩ : ∃ w : Waiting, _ ∧ w.table = t := by
      simpa only [List.append_nil, List.mem_map] using hmem
    obtain ⟨⟨u, -, rfl⟩, hzero⟩ : (∃ u ∈ batch, _) ∧ _ := by
      simpa only [List.mem_filter, List.mem_map] using hw
    rw [← hcount]
    simpa using hzero
  · obtain ⟨⟨u, -, rfl⟩, -⟩ : (∃ u ∈ batch, _) ∧ _ := by
      simpa only [Progress.start, List.mem_filter, List.mem_map] using hw
    exact hcount u
  · simpa using (List.mem_filter.1 hw).2

/-- After a step the numbers of the waiting tables are again what they stand for. -/
theorem Progress.Sound.count_after {batch : List Table} {p : Progress} {t : Table}
    {rest : List Table} (hs : p.Sound batch) (h : p.ready = t :: rest) {w : Waiting}
    (hw : w ∈ p.waiting) :
    (w.after t).count = (p.step t rest).pending.countP w.table.dependsOn := by
  have hcount := hs.count_eq w hw
  rw [(Progress.pending_step h).countP_eq, List.countP_cons] at hcount
  unfold Waiting.after
  by_cases hd : w.table.dependsOn t = true <;> simp [hd] at hcount ⊢ <;> omega

/-- A step keeps the invariant. -/
theorem Progress.Sound.step {batch : List Table} {p : Progress} {t : Table} {rest : List Table}
    (hs : p.Sound batch) (h : p.ready = t :: rest) : (p.step t rest).Sound batch := by
  have hpend := Progress.pending_step h
  have hfree : ∀ u ∈ p.pending, t.dependsOn u = false := by
    have := hs.ready_free t (by simp [h])
    simpa using this
  have htmem : t ∈ p.pending := hpend.mem_iff.2 (by simp)
  have hsub : ∀ u ∈ (p.step t rest).pending, u ∈ p.pending :=
    fun u hu => hpend.mem_iff.2 (List.mem_cons_of_mem _ hu)
  refine ⟨?_, fun u hu => ?_, fun w hw => ?_, fun w hw => ?_, ⟨?_, ?_⟩, fun u hu v hv => ?_⟩
  · -- The created table moves from the pending ones to the end of the created ones.
    have : (p.created ++ [t] ++ (p.step t rest).pending).Perm (p.created ++ p.pending) := by
      rw [List.append_assoc]
      exact hpend.symm.append_left p.created
    exact this.trans hs.perm
  · rcases List.mem_append.1 ((insertAllReady_perm _ rest).mem_iff.1 hu) with hu | hu
    · obtain ⟨w', hw', rfl⟩ := List.mem_map.1 hu
      obtain ⟨hmem, hzero⟩ := List.mem_filter.1 hw'
      obtain ⟨w, hw, rfl⟩ := List.mem_map.1 hmem
      rw [Waiting.table_after, ← hs.count_after h hw]
      simpa using hzero
    · have hzero := hs.ready_free u (by simp [h, hu])
      rw [hpend.countP_eq, List.countP_cons] at hzero
      omega
  · obtain ⟨w', hw', rfl⟩ := List.mem_map.1 (List.mem_filter.1 hw).1
    rw [Waiting.table_after]
    exact hs.count_after h hw'
  · simpa using (List.mem_filter.1 hw).2
  · refine List.pairwise_append.2 ⟨hs.ordered.later, List.pairwise_singleton _ _, ?_⟩
    intro u hu v hv
    rw [List.mem_singleton.1 hv]
    exact hs.settled u hu t htmem
  · intro u hu
    rcases List.mem_append.1 hu with hu | hu
    · exact hs.ordered.self u hu
    · rw [List.mem_singleton.1 hu]
      exact hfree t htmem
  · rcases List.mem_append.1 hu with hu | hu
    · exact hs.settled u hu v (hsub v hv)
    · rw [List.mem_singleton.1 hu]
      exact hfree v (hsub v hv)

/-- A whole run keeps the invariant, and ends when nothing can come next. -/
theorem Progress.Sound.finish {batch : List Table} {p : Progress} (hs : p.Sound batch) :
    p.finish.Sound batch ∧ p.finish.ready = [] := by
  fun_induction Progress.finish p with
  | case1 p h => exact ⟨hs, h⟩
  | case2 p t rest h ih => exact ih (hs.step h)

/-- An order that is returned has every table of the batch once, no two of them with one key, and
each after the tables it depends on. -/
theorem inOrder_ok {batch out : List Table} (h : inOrder batch = .ok out) :
    out.Perm batch ∧ (batch.map Table.key).Nodup ∧ DependencyOrdered out := by
  unfold inOrder at h
  split at h
  · cases h
  · rename_i hnone
    simp only at h
    split at h
    · cases h
    · rename_i hlen
      cases h
      have hs := (Progress.Sound.start batch).finish.1
      have hpending : (Progress.start batch).finish.pending = [] := by
        have := hs.perm.length_eq
        rw [List.length_append] at this
        exact List.eq_nil_of_length_eq_zero (by omega)
      refine ⟨?_, (firstRepeated_eq_none_iff.1 hnone).1, hs.ordered⟩
      simpa [hpending] using hs.perm

end Schemata.Sql
