import Schemata.Proofs.Cycle
import Schemata.Proofs.GreedyOrder
import Mathlib.Data.List.Permutation

/-!
# When tables cannot be put in order

A batch without two tables of one key is put in order exactly if its dependencies have no cycle.
When the creation comes to a stop, every table that is left waits for another that is left, so there
is a cycle; and where there is a cycle no order has each table after those it depends on. What is
reported then are the tables that wait for each other: not those that only wait for them, and not a
table that waits for itself alone.

## Main definitions

* `Awaits`: the dependencies within a batch.

## Main statements

* `exists_inOrder_ok_iff`: the batches that are put in order.
* `mem_reach_iff`: what a table waits for, directly or through others.
* `exists_onCycle_perm`: the tables that are reported lie on cycles of two or more.
* `inOrder_outcome`: the outcome for every batch.
-/

namespace Schemata.Sql

open Relation

/-- Within a batch, one table depends on another. -/
def Awaits (batch : List Table) (t u : Table) : Prop :=
  t ∈ batch ∧ u ∈ batch ∧ t.dependsOn u = true

instance (batch : List Table) : DecidableRel (Awaits batch) := fun _ _ =>
  inferInstanceAs (Decidable (_ ∧ _ ∧ _))

variable {batch : List Table}

theorem mem_of_isCycle {cycle : List Table} (h : IsCycle (Awaits batch) cycle) {t : Table}
    (ht : t ∈ cycle) : t ∈ batch := by
  obtain ⟨u, -, hawaits⟩ := h.exists_rel ht
  exact hawaits.2.1

theorem mem_of_reflTransGen {t u : Table} (ht : t ∈ batch)
    (h : ReflTransGen (Awaits batch) t u) : u ∈ batch := by
  rcases ReflTransGen.cases_tail h with rfl | ⟨v, -, hawaits⟩
  · exact ht
  · exact hawaits.2.1

/-! ## Batches that are put in order -/

theorem DependencyOrdered.idxOf_lt {out : List Table} (h : DependencyOrdered out) {t u : Table}
    (ht : t ∈ out) (hu : u ∈ out) (hd : t.dependsOn u = true) : out.idxOf u < out.idxOf t := by
  obtain ⟨before, after, rfl, hnot⟩ := List.eq_append_cons_of_mem ht
  have hmem : u ∈ before := h.mem_before hu hd
  have hplace : (before ++ t :: after).idxOf t = before.length := by
    simp [List.idxOf_append, hnot]
  rw [hplace, List.idxOf_append, if_pos hmem]
  exact List.idxOf_lt_length_iff.2 hmem

/-- Where there is a dependency order there is no cycle: each table comes later than the next. -/
theorem DependencyOrdered.not_isCycle {out cycle : List Table} (h : DependencyOrdered out)
    (hperm : out.Perm batch) : ¬ IsCycle (Awaits batch) cycle := by
  intro hcycle
  have hlater {t u : Table} (hreach : TransGen (Awaits batch) t u) :
      out.idxOf u < out.idxOf t := by
    induction hreach with
    | single hawaits =>
      exact h.idxOf_lt (hperm.mem_iff.2 hawaits.1) (hperm.mem_iff.2 hawaits.2.1) hawaits.2.2
    | tail _ hawaits ih =>
      have hstep :=
        h.idxOf_lt (hperm.mem_iff.2 hawaits.1) (hperm.mem_iff.2 hawaits.2.1) hawaits.2.2
      omega
  obtain ⟨t, ht⟩ := List.exists_mem_of_ne_nil cycle hcycle.ne_nil
  have hself := hlater (hcycle.transGen ht ht)
  omega

/-- When nothing can come next, all that is left waits among itself. -/
theorem Progress.Sound.exists_isCycle {p : Progress} (hs : p.Sound batch) (hready : p.ready = [])
    (hne : p.pending ≠ []) : ∃ cycle, IsCycle (Awaits batch) cycle := by
  have hbatch : ∀ t ∈ p.pending, t ∈ batch := by
    intro t ht
    exact hs.perm.mem_iff.1 (List.mem_append_right _ ht)
  refine exists_isCycle_of_forall_exists hne ?_
  intro t ht
  have hwaiting : t ∈ p.waiting.map (·.table) := by simpa [Progress.pending, hready] using ht
  obtain ⟨w, hw, rfl⟩ := List.mem_map.1 hwaiting
  have hcount : p.pending.countP w.table.dependsOn ≠ 0 := hs.count_eq w hw ▸ hs.count_ne_zero w hw
  obtain ⟨u, hu, hd⟩ := List.countP_pos_iff.1 (Nat.pos_of_ne_zero hcount)
  exact ⟨u, hu, hbatch _ ht, hbatch u hu, hd⟩

theorem inOrder_of_nodup (hkeys : (batch.map Table.key).Nodup) :
    inOrder batch = if (Progress.start batch).finish.created.length < batch.length
      then .error (.cycle (onCycle batch)) else .ok (Progress.start batch).finish.created := by
  have hnone : firstRepeated [] batch = none := firstRepeated_eq_none_iff.2 ⟨hkeys, by simp⟩
  rw [inOrder, hnone]

/-- Where there is a cycle, it is reported. -/
theorem inOrder_eq_cycle (hkeys : (batch.map Table.key).Nodup) {cycle : List Table}
    (h : IsCycle (Awaits batch) cycle) : inOrder batch = .error (.cycle (onCycle batch)) := by
  have hnot : ∀ out, inOrder batch ≠ .ok out := by
    intro out hok
    obtain ⟨hperm, -, hordered⟩ := inOrder_ok hok
    exact hordered.not_isCycle hperm h
  rw [inOrder_of_nodup hkeys] at hnot ⊢
  split
  · rfl
  · rename_i hlength
    exact absurd (if_neg hlength) (hnot _)

/-- A batch of distinct keys is put in order exactly if its dependencies have no cycle. -/
theorem exists_inOrder_ok_iff (hkeys : (batch.map Table.key).Nodup) :
    (∃ out, inOrder batch = .ok out) ↔ ∀ cycle, ¬ IsCycle (Awaits batch) cycle := by
  constructor
  · rintro ⟨out, hok⟩ cycle hcycle
    rw [inOrder_eq_cycle hkeys hcycle] at hok
    cases hok
  · intro hnone
    obtain ⟨hs, hready⟩ := (Progress.Sound.start batch).finish
    have hpending : (Progress.start batch).finish.pending = [] := by
      by_contra hne
      obtain ⟨cycle, hcycle⟩ := hs.exists_isCycle hready hne
      exact hnone cycle hcycle
    have hlength := hs.perm.length_eq
    rw [hpending, List.append_nil] at hlength
    exact ⟨_, by rw [inOrder_of_nodup hkeys, if_neg (by omega)]⟩

/-- A cycle is reported exactly if there is one. -/
theorem inOrder_eq_cycle_iff (hkeys : (batch.map Table.key).Nodup) {names : List String} :
    inOrder batch = .error (.cycle names) ↔
      names = onCycle batch ∧ ∃ cycle, IsCycle (Awaits batch) cycle := by
  constructor
  · intro h
    obtain ⟨cycle, hcycle⟩ : ∃ cycle, IsCycle (Awaits batch) cycle := by
      by_contra hnone
      obtain ⟨out, hok⟩ := (exists_inOrder_ok_iff hkeys).2 (not_exists.1 hnone)
      rw [hok] at h
      cases h
    rw [inOrder_eq_cycle hkeys hcycle] at h
    cases h
    exact ⟨rfl, cycle, hcycle⟩
  · rintro ⟨rfl, cycle, hcycle⟩
    exact inOrder_eq_cycle hkeys hcycle

/-! ## What a table waits for -/

/-- A search finds what can be reached from the tables to look at by way of tables not yet met. -/
theorem mem_follow_iff {unmet look : List Table} {u : Table} : u ∈ follow unmet look ↔
    ∃ t ∈ look, ReflTransGen (fun a b => b ∈ unmet ∧ a.dependsOn b = true) t u := by
  fun_induction follow unmet look with
  | case1 unmet => simp
  | case2 unmet t rest ih =>
    have hawaited {v : Table} : v ∈ t.awaited unmet ↔ v ∈ unmet ∧ t.dependsOn v = true :=
      List.mem_filter
    have hunawaited {v : Table} : v ∈ t.unawaited unmet ↔ v ∈ unmet ∧ t.dependsOn v = false := by
      simp [Table.unawaited]
    rw [List.mem_cons, ih]
    constructor
    · rintro (rfl | ⟨s, hs, hpath⟩)
      · exact ⟨u, List.mem_cons_self, .refl⟩
      · have hpath' := ReflTransGen.mono
          (fun a b hab => And.intro (hunawaited.1 hab.1).1 hab.2) s u hpath
        rcases List.mem_append.1 hs with hs | hs
        · exact ⟨t, List.mem_cons_self, .head (hawaited.1 hs) hpath'⟩
        · exact ⟨s, List.mem_cons_of_mem _ hs, hpath'⟩
    · rintro ⟨s, hs, hpath⟩
      -- a path starts again where it comes to a table that `t` waits for
      clear ih
      induction hpath with
      | refl =>
        rcases List.mem_cons.1 hs with rfl | hs
        · exact .inl rfl
        · exact .inr ⟨s, List.mem_append_right _ hs, .refl⟩
      | @tail v u _ hstep ihpath =>
        by_cases hd : t.dependsOn u = true
        · exact .inr ⟨u, List.mem_append_left _ (hawaited.2 ⟨hstep.1, hd⟩), .refl⟩
        · have hunmet : u ∈ t.unawaited unmet := hunawaited.2 ⟨hstep.1, by simpa using hd⟩
          rcases ihpath with rfl | ⟨s', hs', hpath'⟩
          · exact absurd hstep.2 hd
          · exact .inr ⟨s', hs', hpath'.tail ⟨hunmet, hstep.2⟩⟩

/-- What a table waits for, directly or through others. -/
theorem mem_reach_iff (hkeys : (batch.map Table.key).Nodup) {t u : Table} (ht : t ∈ batch) :
    u ∈ reach batch t ↔ ReflTransGen (Awaits batch) t u := by
  have hother {v : Table} : v ∈ batch.filter (·.key != t.key) ↔ v ∈ batch ∧ v.key ≠ t.key := by
    simp
  rw [reach, mem_follow_iff]
  simp only [List.mem_singleton, exists_eq_left]
  constructor
  · intro hpath
    induction hpath with
    | refl => exact .refl
    | @tail v u hpath hstep ih =>
      have hv : v ∈ batch := by
        rcases ReflTransGen.cases_tail hpath with rfl | ⟨x, -, hx⟩
        · exact ht
        · exact (hother.1 hx.1).1
      exact ih.tail ⟨hv, (hother.1 hstep.1).1, hstep.2⟩
  · intro hpath
    induction hpath with
    | refl => exact .refl
    | @tail v u _ hawaits ih =>
      by_cases hkey : u.key = t.key
      -- back at the first table, where the path can start again
      · rw [List.inj_on_of_nodup_map hkeys hawaits.2.1 ht hkey]
      · exact ih.tail ⟨hother.2 ⟨hawaits.2.1, hkey⟩, hawaits.2.2⟩

/-! ## What is reported -/

theorem waitMutually_iff {a b : Table × List Table} : waitMutually a b = true ↔
    a.1.key ≠ b.1.key ∧ (∃ t ∈ a.2, t.key = b.1.key) ∧ ∃ t ∈ b.2, t.key = a.1.key := by
  simp [waitMutually, and_assoc]

/-- The names of the tables that wait for each other, before they are sorted. -/
theorem onCycle_eq (batch : List Table) : onCycle batch
    = ((batch.filter fun t => batch.any fun u =>
      waitMutually (t, reach batch t) (u, reach batch u)).map Table.qualifiedName).mergeSort
        fun a b => decide (a ≤ b) := by
  simp only [onCycle, List.filter_map, List.any_map, List.map_map, Function.comp_def]

/-- The names of the tables on cycles of two or more are reported, once for each table. -/
theorem exists_onCycle_perm (hkeys : (batch.map Table.key).Nodup) :
    ∃ ts : List Table, ts.Sublist batch
      ∧ (∀ t, t ∈ ts ↔ ∃ cycle, IsCycle (Awaits batch) cycle ∧ 2 ≤ cycle.length ∧ t ∈ cycle)
      ∧ (onCycle batch).Perm (ts.map Table.qualifiedName) := by
  have hreach {t : Table} (ht : t ∈ batch) {v : Table} (hv : v ∈ batch) :
      (∃ x ∈ reach batch t, x.key = v.key) ↔ ReflTransGen (Awaits batch) t v := by
    constructor
    · rintro ⟨x, hx, hkey⟩
      have hpath := (mem_reach_iff hkeys ht).1 hx
      rwa [← List.inj_on_of_nodup_map hkeys (mem_of_reflTransGen ht hpath) hv hkey]
    · intro hpath
      exact ⟨v, (mem_reach_iff hkeys ht).2 hpath, rfl⟩
  refine ⟨batch.filter fun t => batch.any fun u =>
    waitMutually (t, reach batch t) (u, reach batch u), List.filter_sublist, fun t => ?_, ?_⟩
  · rw [List.mem_filter, List.any_eq_true]
    simp only [waitMutually_iff]
    constructor
    · rintro ⟨ht, u, hu, hne, hto, hback⟩
      refine exists_isCycle_iff.2 ⟨u, ?_, (hreach ht hu).1 hto, (hreach hu ht).1 hback⟩
      rintro rfl
      exact hne rfl
    · rintro ⟨cycle, hcycle, hlength, ht⟩
      have htmem := mem_of_isCycle hcycle ht
      obtain ⟨u, hne, hto, hback⟩ := exists_isCycle_iff.1 ⟨cycle, hcycle, hlength, ht⟩
      have humem := mem_of_reflTransGen htmem hto
      refine ⟨htmem, u, humem, fun hkey => hne ?_, (hreach htmem humem).2 hto,
        (hreach humem htmem).2 hback⟩
      exact List.inj_on_of_nodup_map hkeys humem htmem hkey.symm
  · rw [onCycle_eq]
    exact List.mergeSort_perm _ _

/-- Names are reported in the order of their bytes. -/
theorem pairwise_onCycle (batch : List Table) :
    (onCycle batch).Pairwise fun a b => Text.utf8 a ≤ Text.utf8 b := by
  have htrans (a b c : String) : decide (a ≤ b) = true → decide (b ≤ c) = true →
      decide (a ≤ c) = true := by
    simpa using String.le_trans
  have htotal (a b : String) : (decide (a ≤ b) || decide (b ≤ a)) = true := by
    simpa using String.le_total a b
  refine (List.pairwise_mergeSort htrans htotal _).imp fun hle => ?_
  exact Text.le_iff_utf8_le.1 (of_decide_eq_true hle)

/-! ## Every batch -/

/-- The first table whose key occurred before. -/
theorem firstRepeated_eq_some {seen : List (String × String)} {ts : List Table} {t : Table}
    (h : firstRepeated seen ts = some t) :
    ∃ before after, ts = before ++ t :: after ∧ (before.map Table.key).Nodup
      ∧ (∀ u ∈ before, u.key ∉ seen) ∧ (t.key ∈ seen ∨ t.key ∈ before.map Table.key) := by
  induction ts generalizing seen with
  | nil => cases h
  | cons u rest ih =>
    unfold firstRepeated at h
    split at h
    · rename_i hseen
      cases h
      exact ⟨[], rest, rfl, List.nodup_nil, by simp, .inl (by simpa using hseen)⟩
    · rename_i hnew
      have hnew : u.key ∉ seen := by simpa using hnew
      obtain ⟨before, after, rfl, hnodup, hbefore, hrepeated⟩ := ih h
      refine ⟨u :: before, after, rfl, ?_, ?_, ?_⟩
      · refine List.nodup_cons.2 ⟨fun hmem => ?_, hnodup⟩
        obtain ⟨v, hv, hkey⟩ := List.mem_map.1 hmem
        exact hbefore v hv (by simp [hkey])
      · intro v hv
        rcases List.mem_cons.1 hv with rfl | hv
        · exact hnew
        · exact fun hseen => hbefore v hv (List.mem_cons_of_mem _ hseen)
      · rcases hrepeated with hseen | hmem
        · rcases List.mem_cons.1 hseen with heq | hseen
          · exact .inr (by simp [heq])
          · exact .inl hseen
        · exact .inr (List.mem_cons_of_mem _ hmem)

/-- A batch of distinct keys is put in order exactly if its dependencies have no cycle, where a
table that depends on itself is one. Otherwise the names of exactly those tables are reported that
lie on a cycle of two or more, in the order of their bytes. A batch in which a key is repeated is
refused for the first table whose key occurred before. -/
theorem inOrder_outcome (batch : List Table) :
    ((batch.map Table.key).Nodup →
      ((∃ out, inOrder batch = .ok out) ↔ ∀ cycle, ¬ IsCycle (Awaits batch) cycle)
      ∧ ((∃ cycle, IsCycle (Awaits batch) cycle) →
        ∃ (names : List String) (ts : List Table),
          inOrder batch = .error (.cycle names) ∧ ts.Sublist batch
          ∧ (∀ t, t ∈ ts ↔ ∃ cycle, IsCycle (Awaits batch) cycle ∧ 2 ≤ cycle.length ∧ t ∈ cycle)
          ∧ names.Perm (ts.map Table.qualifiedName)
          ∧ names.Pairwise fun a b => Text.utf8 a ≤ Text.utf8 b))
    ∧ (¬ (batch.map Table.key).Nodup →
      ∃ before t after, batch = before ++ t :: after ∧ (before.map Table.key).Nodup
        ∧ t.key ∈ before.map Table.key ∧ inOrder batch = .error (.duplicate t.qualifiedName)) := by
  refine ⟨fun hkeys => ⟨exists_inOrder_ok_iff hkeys, ?_⟩, fun hrepeated => ?_⟩
  · rintro ⟨cycle, hcycle⟩
    obtain ⟨ts, hsub, hmem, hperm⟩ := exists_onCycle_perm hkeys
    exact ⟨onCycle batch, ts, inOrder_eq_cycle hkeys hcycle, hsub, hmem, hperm,
      pairwise_onCycle batch⟩
  · obtain ⟨t, ht⟩ : ∃ t, firstRepeated [] batch = some t := by
      refine Option.ne_none_iff_exists'.1 fun hnone => hrepeated ?_
      exact (firstRepeated_eq_none_iff.1 hnone).1
    obtain ⟨before, after, hbatch, hnodup, -, hseen⟩ := firstRepeated_eq_some ht
    refine ⟨before, t, after, hbatch, hnodup, hseen.resolve_left (by simp), ?_⟩
    rw [inOrder, ht]

/-- Of two tables that wait for each other and a third that waits for them, the two are reported;
and where two keys are repeated, the one that is repeated first is. -/
theorem inOrder_outcome_mutual :
    let a := sketch "app" "a" ["b"]
    let b := sketch "app" "b" ["a"]
    let c := sketch "app" "c" ["a"]
    (([a, b, c].map Table.key).Nodup ∧ IsCycle (Awaits [a, b, c]) [a, b]
      ∧ ∃ (names : List String) (ts : List Table), names = ["app.a", "app.b"]
        ∧ inOrder [a, b, c] = .error (.cycle names) ∧ ts.Sublist [a, b, c]
        ∧ (∀ t, t ∈ ts ↔
          ∃ cycle, IsCycle (Awaits [a, b, c]) cycle ∧ 2 ≤ cycle.length ∧ t ∈ cycle)
        ∧ names.Perm (ts.map Table.qualifiedName)
        ∧ names.Pairwise fun a b => Text.utf8 a ≤ Text.utf8 b)
    ∧ ¬ ([c, c, b, b, b].map Table.key).Nodup
    ∧ ∃ before t after, [c, c, b, b, b] = before ++ t :: after ∧ (before.map Table.key).Nodup
      ∧ t.key ∈ before.map Table.key
      ∧ inOrder [c, c, b, b, b] = .error (.duplicate t.qualifiedName) := by
  have hvalue : inOrder [sketch "app" "a" ["b"], sketch "app" "b" ["a"], sketch "app" "c" ["a"]]
      = .error (.cycle ["app.a", "app.b"]) := by cbv
  intro a b c
  have hkeys : ([a, b, c].map Table.key).Nodup := by decide
  have hcycle : IsCycle (Awaits [a, b, c]) [a, b] :=
    ⟨by decide, by decide, a, b, rfl, rfl, by decide⟩
  have hrepeated : ¬ ([c, c, b, b, b].map Table.key).Nodup := by decide
  obtain ⟨names, ts, hnames, hrest⟩ := ((inOrder_outcome [a, b, c]).1 hkeys).2 ⟨_, hcycle⟩
  refine ⟨⟨hkeys, hcycle, names, ts, ?_, hnames, hrest⟩, hrepeated,
    (inOrder_outcome [c, c, b, b, b]).2 hrepeated⟩
  exact (OrderError.cycle.inj (Except.error.inj (hvalue.symm.trans hnames))).symm

end Schemata.Sql
