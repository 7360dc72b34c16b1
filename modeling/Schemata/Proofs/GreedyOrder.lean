import Schemata.Proofs.Order
import Schemata.Proofs.Text.ByteOrder
import Mathlib.Data.List.Nodup
import Mathlib.Data.Prod.Lex

/-!
# The order of creation is the greedy one

Of all dependency orders of a batch one is returned: at each place stands the least of the tables
that can stand there, by name and then by schema. The tables that can come next are kept in order,
and they are exactly those that depend on nothing but created tables, so each step takes the least.

## Main definitions

* `Available`: a table can come next, after the given ones.
* `IsNext`: it is the least of those that can.
* `GreedyOrder`: every table of a list is the next one after those before it.

## Main statements

* `Progress.Sound.available_iff`: the tables that are kept ready are those that can come next.
* `GreedyOrder.restrict`: tables that do not depend on others are not moved by them.
* `inOrder_greedyOrder`: the order that is returned is greedy.
* `inOrder_ok_greedy`: the same in terms of places, keys and bytes.
-/

namespace Schemata.Sql

/-! ## Ranks -/

/-- What decides between two tables that can both come next: the name, and then the schema. -/
def Table.rank (t : Table) : String ×ₗ String := toLex (t.name, t.schema)

theorem Table.before_iff_rank_lt {t u : Table} : t.before u = true ↔ t.rank < u.rank := by
  simp [Table.before, Table.rank, Prod.Lex.toLex_lt_toLex]

theorem Table.rank_inj {t u : Table} : t.rank = u.rank ↔ t.key = u.key := by
  simp [Table.rank, Table.key, and_comm]

/-- Ranks are compared by the bytes of the names, and then by those of the schemas. -/
theorem Table.rank_lt_iff_utf8 {t u : Table} : t.rank < u.rank ↔
    toLex (Text.utf8 t.name, Text.utf8 t.schema)
      < toLex (Text.utf8 u.name, Text.utf8 u.schema) := by
  simp only [Table.rank, Prod.Lex.toLex_lt_toLex, Text.lt_iff_utf8_lt, Text.utf8_inj]

/-- A table that is put in its place among others of other keys leaves them in order. -/
theorem insertReady_pairwise {t : Table} {ready : List Table}
    (hsorted : ready.Pairwise fun a b => a.rank < b.rank) (hnew : t.key ∉ ready.map Table.key) :
    (insertReady t ready).Pairwise fun a b => a.rank < b.rank := by
  induction ready with
  | nil => exact List.pairwise_singleton _ _
  | cons u rest ih =>
    obtain ⟨hu, hrest⟩ := List.pairwise_cons.1 hsorted
    obtain ⟨hne, hnew⟩ : t.key ≠ u.key ∧ t.key ∉ rest.map Table.key := by simpa using hnew
    unfold insertReady
    split
    · rename_i hbefore
      have hlt := Table.before_iff_rank_lt.1 hbefore
      refine List.pairwise_cons.2 ⟨fun v hv => ?_, hsorted⟩
      rcases List.mem_cons.1 hv with rfl | hv
      · exact hlt
      · exact hlt.trans (hu v hv)
    · rename_i hbefore
      have hlt : u.rank < t.rank :=
        lt_of_le_of_ne (not_lt.1 fun h => hbefore (Table.before_iff_rank_lt.2 h))
          fun h => hne (Table.rank_inj.1 h.symm)
      refine List.pairwise_cons.2 ⟨fun v hv => ?_, ih hrest hnew⟩
      rcases List.mem_cons.1 ((insertReady_perm t rest).mem_iff.1 hv) with rfl | hv
      · exact hlt
      · exact hu v hv

theorem insertAllReady_pairwise {ts ready : List Table}
    (hsorted : ready.Pairwise fun a b => a.rank < b.rank)
    (hkeys : ((ts ++ ready).map Table.key).Nodup) :
    (insertAllReady ts ready).Pairwise fun a b => a.rank < b.rank := by
  induction ts with
  | nil => exact hsorted
  | cons t ts ih =>
    obtain ⟨hnew, hkeys⟩ : t.key ∉ (ts ++ ready).map Table.key ∧ _ := List.nodup_cons.1 hkeys
    refine insertReady_pairwise (ih hkeys) fun hmem => hnew ?_
    exact ((insertAllReady_perm ts ready).map Table.key).mem_iff.1 hmem

/-! ## What can come next -/

/-- A table depends on another when a key of it refers there, and not to its own table. -/
theorem Table.dependsOn_iff {t u : Table} : t.dependsOn u = true ↔
    ∃ k ∈ t.foreignKeys, k.isSelfReference = false ∧ (k.refSchema, k.refTable) = u.key := by
  simp [Table.dependsOn, Table.key, and_assoc]

/-- A table of a batch can come after the created ones: it is not one of them, and they have all
tables of the batch that it depends on. -/
structure Available (batch created : List Table) (t : Table) : Prop where
  mem : t ∈ batch
  fresh : t ∉ created
  settled : ∀ u ∈ batch, t.dependsOn u = true → u ∈ created

/-- Of the tables that can come after the created ones, this is the least. -/
structure IsNext (batch created : List Table) (t : Table) : Prop extends
    Available batch created t where
  least : ∀ u, Available batch created u → u ≠ t → t.rank < u.rank

/-- Every table is the next one after those before it. -/
def GreedyOrder (batch out : List Table) : Prop :=
  ∀ before t after, out = before ++ t :: after → IsNext batch before t

/-- There is one next table. -/
theorem IsNext.eq {batch created : List Table} {t u : Table} (ht : IsNext batch created t)
    (hu : IsNext batch created u) : t = u := by
  by_contra hne
  exact lt_asymm (ht.least u hu.toAvailable (Ne.symm hne)) (hu.least t ht.toAvailable hne)

theorem GreedyOrder.nil (batch : List Table) : GreedyOrder batch [] := by
  intro before t after h
  simp at h

/-- A greedy order goes on with the next table. -/
theorem GreedyOrder.concat {batch out : List Table} {t : Table} (h : GreedyOrder batch out)
    (ht : IsNext batch out t) : GreedyOrder batch (out ++ [t]) := by
  intro before u after heq
  rcases List.eq_nil_or_concat after with rfl | ⟨after, v, rfl⟩
  · obtain ⟨rfl, hu⟩ := List.append_inj' heq rfl
    obtain rfl : t = u := by simpa using hu
    exact ht
  · have heq' : out ++ [t] = (before ++ u :: after) ++ [v] := by simpa using heq
    exact h before u after (List.append_inj' heq' rfl).1

/-- Of greedy orders that begin alike, one goes on like the other. -/
theorem GreedyOrder.eq_of_append {batch before rest rest' : List Table}
    (h : GreedyOrder batch (before ++ rest)) (h' : GreedyOrder batch (before ++ rest'))
    (hlength : rest.length = rest'.length) : rest = rest' := by
  induction rest generalizing before rest' with
  | nil => exact (List.length_eq_zero_iff.1 hlength.symm).symm
  | cons t rest ih =>
    cases rest' with
    | nil => cases hlength
    | cons u rest' =>
      obtain rfl : t = u := (h before t rest rfl).eq (h' before u rest' rfl)
      rw [List.append_cons] at h h'
      rw [ih h h' (Nat.succ.inj hlength)]

/-! ## Smaller batches -/

section Restriction

variable {batch larger : List Table} (old : Table → Bool)
  (hold : ∀ t, t ∈ batch ↔ t ∈ larger ∧ old t = true)
  (hclosed : ∀ t ∈ batch, ∀ u ∈ larger, t.dependsOn u = true → u ∈ batch)

include hold hclosed

/-- Where the tables of a batch depend on each other only, others do not change which comes next. -/
theorem IsNext.restrict {created : List Table} {t : Table} (h : IsNext larger created t)
    (ht : old t = true) : IsNext batch (created.filter old) t := by
  refine ⟨⟨(hold t).2 ⟨h.mem, ht⟩, fun hmem => h.fresh (List.mem_of_mem_filter hmem), ?_⟩, ?_⟩
  · intro u hu hd
    obtain ⟨hmem, hu⟩ := (hold u).1 hu
    exact List.mem_filter.2 ⟨h.settled u hmem hd, hu⟩
  · intro u hu hne
    obtain ⟨hmem, hkept⟩ := (hold u).1 hu.mem
    refine h.least u ⟨hmem, fun hcreated => hu.fresh (List.mem_filter.2 ⟨hcreated, hkept⟩), ?_⟩ hne
    intro v hv hd
    exact List.mem_of_mem_filter (hu.settled v (hclosed u hu.mem v hv hd) hd)

/-- In a greedy order of more tables, those of such a batch stand as they would by themselves. -/
theorem GreedyOrder.restrict {out : List Table} (h : GreedyOrder larger out) :
    GreedyOrder batch (out.filter old) := by
  intro before t after heq
  obtain ⟨left, right, rfl, rfl, hright⟩ := List.filter_eq_append_iff.1 heq
  obtain ⟨gap, rest, rfl, hgap, ht, -⟩ := List.filter_eq_cons_iff.1 hright
  have hnext := (h (left ++ gap) t rest (by simp)).restrict old hold hclosed ht
  rwa [List.filter_append, List.filter_eq_nil_iff.2 hgap, List.append_nil] at hnext

end Restriction

/-! ## Every step takes the next table -/

namespace Progress.Sound

variable {batch : List Table} {p : Progress}

theorem nodup_keys (hs : p.Sound batch) (hkeys : (batch.map Table.key).Nodup) :
    ((p.created ++ p.pending).map Table.key).Nodup :=
  (hs.perm.map Table.key).nodup_iff.2 hkeys

theorem notMem_pending (hs : p.Sound batch) (hkeys : (batch.map Table.key).Nodup) {t : Table}
    (ht : t ∈ p.created) : t ∉ p.pending := fun hpending =>
  (List.nodup_append.1 (List.Nodup.of_map _ (hs.nodup_keys hkeys))).2.2 t ht t hpending rfl

/-- The tables that are kept ready are those that can come next. -/
theorem available_iff (hs : p.Sound batch) (hkeys : (batch.map Table.key).Nodup) {t : Table} :
    Available batch p.created t ↔ t ∈ p.ready := by
  have hbatch {u : Table} : u ∈ batch ↔ u ∈ p.created ∨ u ∈ p.pending := by
    rw [← hs.perm.mem_iff, List.mem_append]
  constructor
  · rintro ⟨hmem, hfresh, hsettled⟩
    have hpending : t ∈ p.pending := (hbatch.1 hmem).resolve_left hfresh
    rcases List.mem_append.1 hpending with hready | hwaiting
    · exact hready
    -- a table that waits has something to wait for, which is not created
    · obtain ⟨w, hw, rfl⟩ := List.mem_map.1 hwaiting
      have hcount : p.pending.countP w.table.dependsOn ≠ 0 :=
        hs.count_eq w hw ▸ hs.count_ne_zero w hw
      obtain ⟨u, hu, hd⟩ := List.countP_pos_iff.1 (Nat.pos_of_ne_zero hcount)
      exact absurd hu (hs.notMem_pending hkeys (hsettled u (hbatch.2 (.inr hu)) hd))
  · intro hready
    have hpending : t ∈ p.pending := List.mem_append_left _ hready
    refine ⟨hbatch.2 (.inr hpending), fun hcreated => hs.notMem_pending hkeys hcreated hpending,
      fun u hu hd => (hbatch.1 hu).resolve_right fun hwaits => ?_⟩
    exact List.countP_eq_zero.1 (hs.ready_free t hready) u hwaits hd

/-- The least of the tables that are kept ready comes next. -/
theorem isNext (hs : p.Sound batch) (hkeys : (batch.map Table.key).Nodup) {t : Table}
    {rest : List Table} (h : p.ready = t :: rest)
    (hsorted : p.ready.Pairwise fun a b => a.rank < b.rank) : IsNext batch p.created t := by
  refine ⟨(hs.available_iff hkeys).2 (by simp [h]), fun u hu hne => ?_⟩
  rw [h] at hsorted
  have hmem := (hs.available_iff hkeys).1 hu
  rw [h] at hmem
  exact (List.pairwise_cons.1 hsorted).1 u ((List.mem_cons.1 hmem).resolve_left hne)

/-- After a step the tables that are kept ready are in order again. -/
theorem pairwise_ready_step (hs : p.Sound batch) (hkeys : (batch.map Table.key).Nodup) {t : Table}
    {rest : List Table} (h : p.ready = t :: rest)
    (hsorted : p.ready.Pairwise fun a b => a.rank < b.rank) :
    (p.step t rest).ready.Pairwise fun a b => a.rank < b.rank := by
  rw [h] at hsorted
  refine insertAllReady_pairwise (List.pairwise_cons.1 hsorted).2 ?_
  have hpending := (hs.step h).nodup_keys hkeys
  rw [List.map_append] at hpending
  rw [← ((insertAllReady_perm _ rest).map Table.key).nodup_iff]
  exact (List.nodup_append.1 hpending).2.1.sublist ((List.sublist_append_left _ _).map Table.key)

/-- A whole run goes on greedily from a greedy beginning. -/
theorem greedyOrder_finish (hs : p.Sound batch) (hkeys : (batch.map Table.key).Nodup)
    (hsorted : p.ready.Pairwise fun a b => a.rank < b.rank) (h : GreedyOrder batch p.created) :
    GreedyOrder batch p.finish.created := by
  fun_induction Progress.finish p with
  | case1 p hready => exact h
  | case2 p t rest hready ih =>
    exact ih (hs.step hready) (hs.pairwise_ready_step hkeys hready hsorted)
      (h.concat (hs.isNext hkeys hready hsorted))

end Progress.Sound

theorem Progress.pairwise_ready_start {batch : List Table} (hkeys : (batch.map Table.key).Nodup) :
    (Progress.start batch).ready.Pairwise fun a b => a.rank < b.rank := by
  refine insertAllReady_pairwise List.Pairwise.nil ?_
  have hpending := ((Progress.start_pending_perm batch).map Table.key).nodup_iff.2 hkeys
  rw [← ((insertAllReady_perm _ []).map Table.key).nodup_iff]
  exact hpending.sublist ((List.sublist_append_left _ _).map Table.key)

/-! ## Whole batches -/

theorem inOrder_eq_ok {batch out : List Table} (h : inOrder batch = .ok out) :
    out = (Progress.start batch).finish.created := by
  unfold inOrder at h
  split at h
  · cases h
  · simp only at h
    split at h
    · cases h
    · exact (Except.ok.inj h).symm

/-- The order that is returned is greedy. -/
theorem inOrder_greedyOrder {batch out : List Table} (h : inOrder batch = .ok out) :
    GreedyOrder batch out := by
  obtain ⟨-, hkeys, -⟩ := inOrder_ok h
  rw [inOrder_eq_ok h]
  exact (Progress.Sound.start batch).greedyOrder_finish hkeys
    (Progress.pairwise_ready_start hkeys) (GreedyOrder.nil batch)

/-- Tables that are put in order with others, on which they do not depend, stand among them as they
stand by themselves. -/
theorem inOrder_filter {batch larger out out' : List Table} (h : inOrder batch = .ok out)
    (h' : inOrder larger = .ok out') (old : Table → Bool)
    (hold : ∀ t, t ∈ batch ↔ t ∈ larger ∧ old t = true)
    (hclosed : ∀ t ∈ batch, ∀ u ∈ larger, t.dependsOn u = true → u ∈ batch) :
    out'.filter old = out := by
  obtain ⟨hperm, hkeys, -⟩ := inOrder_ok h
  obtain ⟨hperm', hkeys', -⟩ := inOrder_ok h'
  have hfilter : (out'.filter old).Perm batch := by
    refine (hperm'.filter old).trans ((List.perm_ext_iff_of_nodup ?_ ?_).2 fun t => ?_)
    · exact (List.Nodup.of_map _ hkeys').filter old
    · exact List.Nodup.of_map _ hkeys
    · rw [hold, List.mem_filter]
  have hrestricted : GreedyOrder batch ([] ++ out'.filter old) :=
    (inOrder_greedyOrder h').restrict old hold hclosed
  exact hrestricted.eq_of_append (inOrder_greedyOrder h) (hfilter.trans hperm.symm).length_eq

/-- An order that is returned has every table of the batch. At each place stands the table that is
the least, by the bytes of its name and then of its schema, among those that are not placed before
and whose dependencies in the batch are; and every table of the batch that a key refers to stands
before the table of the key, unless the key refers to its own table. -/
theorem inOrder_ok_greedy {batch out : List Table} (h : inOrder batch = .ok out) :
    out.Perm batch
      ∧ (∀ i (hi : i < out.length), Available batch (out.take i) out[i]
        ∧ ∀ u, Available batch (out.take i) u → u ≠ out[i] →
          toLex (Text.utf8 out[i].name, Text.utf8 out[i].schema)
            < toLex (Text.utf8 u.name, Text.utf8 u.schema))
      ∧ ∀ i (hi : i < out.length), ∀ k ∈ out[i].foreignKeys, k.isSelfReference = false →
        ∀ u ∈ batch, (k.refSchema, k.refTable) = u.key → u ∈ out.take i := by
  have hnext (i : Nat) (hi : i < out.length) : IsNext batch (out.take i) out[i] := by
    refine inOrder_greedyOrder h (out.take i) out[i] (out.drop (i + 1)) ?_
    rw [← List.drop_eq_getElem_cons hi, List.take_append_drop]
  refine ⟨(inOrder_ok h).1, fun i hi => ⟨(hnext i hi).toAvailable, fun u hu hne => ?_⟩,
    fun i hi k hk hself u hu href => ?_⟩
  · exact Table.rank_lt_iff_utf8.1 ((hnext i hi).least u hu hne)
  · exact (hnext i hi).settled u hu (Table.dependsOn_iff.2 ⟨k, hk, hself, href⟩)

/-- A table without columns that refers to other tables of its schema. -/
def sketch (schema name : String) (refs : List String) : Table :=
  { schema := schema
    name := name
    foreignKeys := refs.map fun ref =>
      { name := "", schema := schema, table := name, columns := [], refSchema := schema,
        refTable := ref, refColumns := [] } }

/-- A table that can come only after another still comes before those of greater names. -/
theorem inOrder_ok_greedy_release :
    let batch := [sketch "app" "c" ["c"], sketch "app" "a_child" ["b", "b", "elsewhere"],
      sketch "app" "b" []]
    let out := [sketch "app" "b" [], sketch "app" "a_child" ["b", "b", "elsewhere"],
      sketch "app" "c" ["c"]]
    inOrder batch = .ok out ∧ out.Perm batch
      ∧ (∀ i (hi : i < out.length), Available batch (out.take i) out[i]
        ∧ ∀ u, Available batch (out.take i) u → u ≠ out[i] →
          toLex (Text.utf8 out[i].name, Text.utf8 out[i].schema)
            < toLex (Text.utf8 u.name, Text.utf8 u.schema))
      ∧ ∀ i (hi : i < out.length), ∀ k ∈ out[i].foreignKeys, k.isSelfReference = false →
        ∀ u ∈ batch, (k.refSchema, k.refTable) = u.key → u ∈ out.take i := by
  intro batch out
  have hok : inOrder batch = .ok out := by decide +kernel
  exact ⟨hok, inOrder_ok_greedy hok⟩

end Schemata.Sql
