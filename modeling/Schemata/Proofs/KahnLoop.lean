import Schemata.Proofs.OrderOutcome
import Mathlib.Data.Finset.Max
import Mathlib.Data.Fintype.Card
import Mathlib.Data.List.FinRange

/-!
# Counting down the edges of a graph

The order of creation can be found on a graph: its nodes are the tables of a batch, and an edge
leads from a table to each table that depends on it. Every node has a number, at first that of the
edges that lead to it. In each iteration the least node with the number zero comes, and the nodes
that its edges lead to lose one each. What makes this work is that no edge is there twice. So the
number of a node that has not come is that of the tables it still waits for, nothing is ever taken
from zero, and no node comes twice, also where tables wait for each other or for themselves, and
where several keys refer to one table.

In the end the tables are taken out of slots, one for each node. Since no node comes twice, no slot
is found empty.

## Main definitions

* `Kahn.edges`: the edges of the graph of a batch.
* `Kahn.State`, `Kahn.State.step`, `Kahn.State.run`: the loop, in which taking from zero is a
  failure.
* `Kahn.State.Invariant`: what holds at every iteration.
* `Kahn.takeSlots`: the tables of an order of nodes.

## Main statements

* `Kahn.State.Invariant.exists_iterates`, `Kahn.State.Invariant.iterates`: an iteration goes through
  and keeps the invariant.
* `Kahn.Mirrors.exists_run`: so do any number of iterations, and `Progress` goes along.
* `Kahn.run_sound`: the loop and the order that is returned, for every batch.
-/

namespace Schemata.Sql

/-! ## So many steps -/

/-- So many steps of the creation of a batch, or fewer when nothing can come next before. -/
def Progress.advance (p : Progress) : Nat → Progress
  | 0 => p
  | n + 1 =>
    match p.ready with
    | [] => p
    | t :: rest => (p.step t rest).advance n

theorem Progress.advance_of_nil {p : Progress} (h : p.ready = []) (n : Nat) : p.advance n = p := by
  cases n with
  | zero => rfl
  | succ n => rw [advance, h]

theorem Progress.advance_succ {p : Progress} {t : Table} {rest : List Table}
    (h : p.ready = t :: rest) (n : Nat) : p.advance (n + 1) = (p.step t rest).advance n := by
  rw [advance, h]

/-- A whole run takes no more steps than there are tables left. -/
theorem Progress.finish_eq_advance (p : Progress) {n : Nat} (h : p.remaining ≤ n) :
    p.finish = p.advance n := by
  fun_induction Progress.finish p generalizing n with
  | case1 p hready => rw [advance_of_nil hready]
  | case2 p t rest hready ih =>
    have hstep := p.remaining_step t rest hready
    obtain ⟨m, rfl⟩ : ∃ m, n = m + 1 := ⟨n - 1, by omega⟩
    rw [advance_succ hready]
    exact ih (by omega)

namespace Kahn

variable (batch : List Table)

/-! ## The graph of a batch -/

/-- A table of a batch, by its place. -/
abbrev Node := Fin batch.length

/-- The place of the table of a key. -/
def node? (key : String × String) : Option (Node batch) := batch.findFinIdx? (·.key == key)

/-- The edges that foreign keys ask for, each from the table that is referred to. Keys that refer to
their own table ask for none, and neither do keys that lead out of the batch. -/
def askedEdges : List (Node batch × Node batch) :=
  (List.finRange batch.length).flatMap fun dependent =>
    (batch.get dependent).foreignKeys.filterMap fun k =>
      if k.isSelfReference then none
      else (node? batch (k.refSchema, k.refTable)).map fun dependency => (dependency, dependent)

/-- The edges of the graph: those that are asked for, each once. -/
def edges : List (Node batch × Node batch) :=
  (askedEdges batch).foldl (fun es e => es.insert e) []

/-- The nodes from which edges lead to a node. -/
def incoming (i : Node batch) : List (Node batch) := ((edges batch).filter (·.2 = i)).map (·.1)

/-- The nodes to which edges lead from a node. -/
def outgoing (i : Node batch) : List (Node batch) := ((edges batch).filter (·.1 = i)).map (·.2)

/-- The nodes of the tables that a table depends on. -/
def predecessors (i : Node batch) : Finset (Node batch) :=
  {j | (batch.get i).dependsOn (batch.get j) = true}

variable {batch}

theorem mem_predecessors {i j : Node batch} :
    j ∈ predecessors batch i ↔ (batch.get i).dependsOn (batch.get j) = true := by
  simp [predecessors]

theorem node_ext (hkeys : (batch.map Table.key).Nodup) {i j : Node batch}
    (h : (batch.get i).key = (batch.get j).key) : i = j :=
  List.nodup_iff_injective_get.1 (List.Nodup.of_map _ hkeys)
    (List.inj_on_of_nodup_map hkeys (List.get_mem _ _) (List.get_mem _ _) h)

theorem node?_eq_some_iff (hkeys : (batch.map Table.key).Nodup) {key : String × String}
    {i : Node batch} : node? batch key = some i ↔ (batch.get i).key = key := by
  rw [node?, List.findFinIdx?_eq_some_iff]
  refine ⟨fun h => by simpa using h.1, fun h => ⟨by simpa using h, fun j hj hkey => ?_⟩⟩
  have hsame : (batch.get j).key = key := by simpa using hkey
  exact hj.ne (node_ext hkeys (hsame.trans h.symm))

theorem mem_askedEdges (hkeys : (batch.map Table.key).Nodup) {i j : Node batch} :
    (j, i) ∈ askedEdges batch ↔ j ∈ predecessors batch i := by
  rw [mem_predecessors, Table.dependsOn_iff]
  simp only [askedEdges, List.mem_flatMap, List.mem_finRange, true_and, List.mem_filterMap]
  constructor
  · rintro ⟨_, k, hk, hedge⟩
    split at hedge
    · cases hedge
    · rename_i hself
      obtain ⟨_, hnode, hpair⟩ := Option.map_eq_some_iff.1 hedge
      cases hpair
      exact ⟨k, hk, Bool.eq_false_iff.2 hself, ((node?_eq_some_iff hkeys).1 hnode).symm⟩
  · rintro ⟨k, hk, hself, hkey⟩
    refine ⟨i, k, hk, ?_⟩
    rw [if_neg (Bool.eq_false_iff.1 hself), (node?_eq_some_iff hkeys).2 hkey.symm]
    rfl

theorem nodup_edges : (edges batch).Nodup := by
  suffices h : ∀ (asked es : List (Node batch × Node batch)), es.Nodup →
      (asked.foldl (fun es e => es.insert e) es).Nodup from h _ _ List.nodup_nil
  intro asked
  induction asked with
  | nil => exact fun es hes => hes
  | cons e asked ih => exact fun es hes => ih _ hes.insert

theorem mem_edges (hkeys : (batch.map Table.key).Nodup) {i j : Node batch} :
    (j, i) ∈ edges batch ↔ j ∈ predecessors batch i := by
  suffices h : ∀ (asked es : List (Node batch × Node batch)),
      (j, i) ∈ asked.foldl (fun es e => es.insert e) es ↔ (j, i) ∈ asked ∨ (j, i) ∈ es by
    rw [edges, h, mem_askedEdges hkeys]
    simp
  intro asked
  induction asked with
  | nil => simp
  | cons e asked ih =>
    intro es
    rw [List.foldl_cons, ih, List.mem_insert_iff, List.mem_cons, or_left_comm, or_assoc]

theorem mem_outgoing (hkeys : (batch.map Table.key).Nodup) {i j : Node batch} :
    i ∈ outgoing batch j ↔ j ∈ predecessors batch i := by
  rw [← mem_edges hkeys]
  simp [outgoing]

/-- Edges that agree at one end differ at the other. -/
theorem nodup_ends {f g : Node batch × Node batch → Node batch}
    (hfg : ∀ e e', f e = f e' → g e = g e' → e = e') (i : Node batch) :
    (((edges batch).filter (f · = i)).map g).Nodup := by
  refine List.Nodup.map_on (fun e he e' he' hsame => ?_) (nodup_edges.filter _)
  have hend : f e = i := by simpa using (List.mem_filter.1 he).2
  have hend' : f e' = i := by simpa using (List.mem_filter.1 he').2
  exact hfg e e' (hend.trans hend'.symm) hsame

theorem nodup_outgoing (i : Node batch) : (outgoing batch i).Nodup :=
  nodup_ends (fun _ _ => Prod.ext) i

/-- As many edges lead to a node as there are tables that it depends on, however many keys refer to
one of them. -/
theorem length_incoming (hkeys : (batch.map Table.key).Nodup) (i : Node batch) :
    (incoming batch i).length = (predecessors batch i).card := by
  have hnodup : (incoming batch i).Nodup := nodup_ends (fun _ _ hsnd hfst => Prod.ext hfst hsnd) i
  have hset : (incoming batch i).toFinset = predecessors batch i := by
    ext j
    rw [← mem_edges hkeys]
    simp [incoming]
  rw [← hset, List.toFinset_card_of_nodup hnodup]

/-! ## The loop -/

/-- What decides which node comes next: the name of its table, the schema, and the place. -/
def rank (i : Node batch) : String ×ₗ String ×ₗ Node batch :=
  toLex ((batch.get i).name, toLex ((batch.get i).schema, i))

/-- The node of a rank. -/
def nodeOf (key : String ×ₗ String ×ₗ Node batch) : Node batch := (ofLex (ofLex key).2).2

@[simp] theorem nodeOf_rank (i : Node batch) : nodeOf (rank i) = i := rfl

theorem rank_injective : Function.Injective (rank : Node batch → _) :=
  Function.LeftInverse.injective nodeOf_rank

variable (batch) in
/-- How far the loop has come. -/
structure State where
  /-- The nodes whose tables have come, in order. -/
  emitted : List (Node batch)
  /-- The number stored for each node. -/
  degree : Node batch → Nat
  /-- The ranks of the nodes that can come next. -/
  ready : Finset (String ×ₗ String ×ₗ Node batch)

namespace State

variable (batch) in
/-- Before the loop every node has the number of edges that lead to it. -/
def start : State batch where
  emitted := []
  degree i := (incoming batch i).length
  ready := (Finset.univ.filter fun i => (incoming batch i).length = 0).image rank

/-- Store a number for a node. With none left it can come next. -/
def store (s : State batch) (d : Node batch) (n : Nat) : State batch where
  emitted := s.emitted
  degree := Function.update s.degree d n
  ready := if n = 0 then insert (rank d) s.ready else s.ready

/-- Take one from the number of a node, where there is one to take. -/
def release (s : State batch) (d : Node batch) : Option (State batch) :=
  match s.degree d with
  | 0 => none
  | n + 1 => some (s.store d n)

/-- A node comes, and is no longer one of those that can come next. -/
def emit (s : State batch) (i : Node batch) : State batch where
  emitted := s.emitted ++ [i]
  degree := s.degree
  ready := s.ready.erase (rank i)

/-- One iteration: the least of the nodes that can come next comes, and its dependents are released.
When none can come next, the loop has ended. -/
def step (s : State batch) : Option (State batch) :=
  if h : s.ready.Nonempty then
    let i := nodeOf (s.ready.min' h)
    (outgoing batch i).foldlM release (s.emit i)
  else some s

/-- So many iterations, or fewer when the loop ends before. -/
def run (s : State batch) : Nat → Option (State batch)
  | 0 => some s
  | n + 1 => s.step.bind fun s' => s'.run n

/-- What holds at every iteration. -/
structure Invariant (s : State batch) : Prop where
  /-- No node comes twice. -/
  nodup : s.emitted.Nodup
  /-- The number of a node that has not come is that of the tables it waits for. -/
  degree_eq : ∀ i ∉ s.emitted, s.degree i = (predecessors batch i \ s.emitted.toFinset).card
  /-- Those can come next that have not come and have the number zero. -/
  ready_eq : s.ready = (Finset.univ.filter fun i => i ∉ s.emitted ∧ s.degree i = 0).image rank
  /-- A node has come after those that it waited for. -/
  settled : ∀ i ∈ s.emitted, ∀ j ∈ predecessors batch i, j ∈ s.emitted

theorem Invariant.mem_ready {s : State batch} (hs : s.Invariant)
    {key : String ×ₗ String ×ₗ Node batch} :
    key ∈ s.ready ↔ ∃ i, i ∉ s.emitted ∧ s.degree i = 0 ∧ rank i = key := by
  rw [hs.ready_eq]
  simp [and_assoc]

theorem Invariant.rank_mem_ready {s : State batch} (hs : s.Invariant) {i : Node batch} :
    rank i ∈ s.ready ↔ i ∉ s.emitted ∧ s.degree i = 0 := by
  simp [hs.mem_ready, rank_injective.eq_iff]

/-- Of a node that can come next, all that it depends on has come. -/
theorem Invariant.subset_of_ready {s : State batch} (hs : s.Invariant) {i : Node batch}
    (hi : rank i ∈ s.ready) : ∀ j ∈ predecessors batch i, j ∈ s.emitted := by
  obtain ⟨hfresh, hzero⟩ := hs.rank_mem_ready.1 hi
  rw [hs.degree_eq i hfresh, Finset.card_eq_zero, Finset.sdiff_eq_empty_iff_subset] at hzero
  exact fun j hj => List.mem_toFinset.1 (hzero hj)

theorem Invariant.start (hkeys : (batch.map Table.key).Nodup) : (start batch).Invariant := by
  refine ⟨List.nodup_nil, fun i _ => ?_, ?_, by simp [State.start]⟩
  · simp [State.start, length_incoming hkeys i]
  · simp [State.start]

/-- What an iteration does in which a node comes: those that depend on it lose one each, and those
that are left with none can come next. -/
structure Iterates (s : State batch) (i : Node batch) (s' : State batch) : Prop where
  mem : rank i ∈ s.ready
  least : ∀ key ∈ s.ready, rank i ≤ key
  emitted_eq : s'.emitted = s.emitted ++ [i]
  degree_of_mem : ∀ j, i ∈ predecessors batch j → s.degree j = s'.degree j + 1
  degree_of_notMem : ∀ j, i ∉ predecessors batch j → s'.degree j = s.degree j
  mem_ready : ∀ key, key ∈ s'.ready ↔ (key ≠ rank i ∧ key ∈ s.ready)
    ∨ ∃ j, i ∈ predecessors batch j ∧ s'.degree j = 0 ∧ rank j = key

/-- Nodes that each have something left can be released one after the other. Each loses one. -/
theorem foldlM_release {ds : List (Node batch)} (hn : ds.Nodup) {s : State batch}
    (hpos : ∀ d ∈ ds, s.degree d ≠ 0) :
    ∃ s', ds.foldlM release s = some s' ∧ s'.emitted = s.emitted
      ∧ (∀ i ∈ ds, s.degree i = s'.degree i + 1) ∧ (∀ i ∉ ds, s'.degree i = s.degree i)
      ∧ ∀ key, key ∈ s'.ready ↔ key ∈ s.ready ∨ ∃ i ∈ ds, s'.degree i = 0 ∧ rank i = key := by
  induction ds generalizing s with
  | nil => exact ⟨s, rfl, rfl, by simp, by simp, by simp⟩
  | cons d ds ih =>
    obtain ⟨hd, hds⟩ := List.nodup_cons.1 hn
    obtain ⟨n, hdegree⟩ := Nat.exists_eq_succ_of_ne_zero (hpos d List.mem_cons_self)
    have hrelease : s.release d = some (s.store d n) := by simp [release, hdegree]
    have hothers : ∀ i, i ≠ d → (s.store d n).degree i = s.degree i :=
      fun i hi => by simp [store, hi]
    have hne : ∀ i ∈ ds, i ≠ d := fun i hi heq => hd (heq ▸ hi)
    obtain ⟨s', hrest, hemitted, htaken, hkept, hready⟩ := ih hds (s := s.store d n) fun i hi => by
      rw [hothers i (hne i hi)]
      exact hpos i (List.mem_cons_of_mem _ hi)
    have hlast : s'.degree d = n := by simp [hkept d hd, store]
    refine ⟨s', ?_, hemitted, fun i hi => ?_, fun i hi => ?_, fun key => ?_⟩
    · rw [List.foldlM_cons, hrelease]
      exact hrest
    · rcases List.mem_cons.1 hi with rfl | hi
      · rw [hlast, hdegree]
      · rw [← htaken i hi, hothers i (hne i hi)]
    · obtain ⟨hi, hrest⟩ : i ≠ d ∧ i ∉ ds := by simpa using hi
      rw [hkept i hrest, hothers i hi]
    · rw [hready]
      by_cases hzero : n = 0 <;> simp [store, hlast, hzero, or_assoc, or_left_comm, eq_comm]

/-- While some node can come next, an iteration goes through: those that depend on the node have not
come, and each still waits for it. -/
theorem Invariant.exists_iterates (hkeys : (batch.map Table.key).Nodup) {s : State batch}
    (hs : s.Invariant) (hne : s.ready.Nonempty) : ∃ i s', s.step = some s' ∧ s.Iterates i s' := by
  obtain ⟨i, hfresh, hzero, hmin⟩ := hs.mem_ready.1 (s.ready.min'_mem hne)
  -- nothing that depends on `i` has come, so `i` is among what it waits for
  have hpos : ∀ d ∈ outgoing batch i, (s.emit i).degree d ≠ 0 := by
    intro d hd
    have hpred := (mem_outgoing hkeys).1 hd
    have hlater : d ∉ s.emitted := fun hmem => hfresh (hs.settled d hmem i hpred)
    have hmem : i ∈ predecessors batch d \ s.emitted.toFinset := by simp [hpred, hfresh]
    show s.degree d ≠ 0
    rw [hs.degree_eq d hlater]
    exact Finset.card_ne_zero_of_mem hmem
  obtain ⟨s', hrun, hemitted, htaken, hkept, hready⟩ := foldlM_release (nodup_outgoing i) hpos
  refine ⟨i, s', ?_, ⟨?_, ?_, hemitted, fun j hj => ?_, fun j hj => ?_, fun key => ?_⟩⟩
  · rw [step, dif_pos hne]
    simp only [← hmin, nodeOf_rank]
    exact hrun
  · rw [hmin]
    exact s.ready.min'_mem hne
  · rw [hmin]
    exact fun key hkey => s.ready.min'_le key hkey
  · exact htaken j ((mem_outgoing hkeys).2 hj)
  · exact hkept j fun hmem => hj ((mem_outgoing hkeys).1 hmem)
  · rw [hready]
    simp only [emit, Finset.mem_erase, mem_outgoing hkeys]

/-- What depends on the node that comes has not come, and is another node. -/
theorem Iterates.later {s s' : State batch} {i j : Node batch} (h : s.Iterates i s')
    (hs : s.Invariant) (hj : i ∈ predecessors batch j) : j ∉ s.emitted ∧ j ≠ i := by
  have hfresh := (hs.rank_mem_ready.1 h.mem).1
  refine ⟨fun hcome => hfresh (hs.settled j hcome i hj), ?_⟩
  rintro rfl
  exact hfresh (hs.subset_of_ready h.mem j hj)

theorem Iterates.notMem_emitted {s s' : State batch} {i j : Node batch} (h : s.Iterates i s') :
    j ∉ s'.emitted ↔ j ∉ s.emitted ∧ j ≠ i := by
  simp [h.emitted_eq]

/-- A node that waits for the node that comes waits for one less. -/
theorem Iterates.degree_eq {s s' : State batch} {i j : Node batch} (h : s.Iterates i s')
    (hs : s.Invariant) (hj : j ∉ s'.emitted) :
    s'.degree j = (predecessors batch j \ s'.emitted.toFinset).card := by
  have herase : predecessors batch j \ s'.emitted.toFinset
      = (predecessors batch j \ s.emitted.toFinset).erase i := by
    ext k
    simp only [Finset.mem_sdiff, Finset.mem_erase, List.mem_toFinset, h.notMem_emitted]
    tauto
  have hfresh := (hs.rank_mem_ready.1 h.mem).1
  have hbefore := hs.degree_eq j (h.notMem_emitted.1 hj).1
  rw [herase]
  by_cases hpred : i ∈ predecessors batch j
  · rw [Finset.card_erase_of_mem (by simp [hpred, hfresh]), ← hbefore, h.degree_of_mem j hpred]
    rfl
  · rw [Finset.erase_eq_of_notMem (by simp [hpred]), ← hbefore, h.degree_of_notMem j hpred]

/-- Those that could come next before can do so still, and are joined by those that waited for the
node that comes alone. -/
theorem Iterates.ready_eq {s s' : State batch} {i : Node batch} (h : s.Iterates i s')
    (hs : s.Invariant) :
    s'.ready = (Finset.univ.filter fun j => j ∉ s'.emitted ∧ s'.degree j = 0).image rank := by
  ext key
  rw [h.mem_ready, hs.mem_ready]
  simp only [Finset.mem_image, Finset.mem_filter, Finset.mem_univ, true_and, h.notMem_emitted,
    and_assoc]
  constructor
  · rintro (⟨hne, j, hj, hzero, rfl⟩ | ⟨j, hpred, hzero, rfl⟩)
    · have hji : j ≠ i := fun heq => hne (heq ▸ rfl)
      have hpred : i ∉ predecessors batch j := fun hpred => by
        have := h.degree_of_mem j hpred
        omega
      exact ⟨j, hj, hji, (h.degree_of_notMem j hpred).trans hzero, rfl⟩
    · exact ⟨j, (h.later hs hpred).1, (h.later hs hpred).2, hzero, rfl⟩
  · rintro ⟨j, hj, hji, hzero, rfl⟩
    by_cases hpred : i ∈ predecessors batch j
    · exact .inr ⟨j, hpred, hzero, rfl⟩
    · have hsame := h.degree_of_notMem j hpred
      exact .inl ⟨rank_injective.ne hji, j, hj, hsame.symm.trans hzero, rfl⟩

/-- An iteration keeps the invariant. -/
theorem Invariant.iterates {s s' : State batch} {i : Node batch} (hs : s.Invariant)
    (h : s.Iterates i s') : s'.Invariant := by
  refine ⟨?_, fun j hj => h.degree_eq hs hj, h.ready_eq hs, fun j hj k hk => ?_⟩
  · rw [h.emitted_eq, ← List.concat_eq_append]
    exact hs.nodup.concat (hs.rank_mem_ready.1 h.mem).1
  · rw [h.emitted_eq] at hj ⊢
    rcases List.mem_append.1 hj with hj | hj
    · exact List.mem_append_left _ (hs.settled j hj k hk)
    · rw [List.mem_singleton.1 hj] at hk
      exact List.mem_append_left _ (hs.subset_of_ready h.mem k hk)

theorem run_of_empty (s : State batch) (h : s.ready = ∅) (n : Nat) : s.run n = some s := by
  have hstep : s.step = some s := by simp [step, h]
  induction n with
  | zero => rfl
  | succ n ih =>
    rw [run, hstep]
    exact ih

/-! ## The order of the nodes -/

/-- The tables that have come. -/
def tables (s : State batch) : List Table := s.emitted.map batch.get

theorem get_mem_tables (hkeys : (batch.map Table.key).Nodup) {s : State batch}
    {i : Node batch} : batch.get i ∈ s.tables ↔ i ∈ s.emitted := by
  refine ⟨fun h => ?_, fun h => List.mem_map_of_mem h⟩
  obtain ⟨j, hj, hsame⟩ := List.mem_map.1 h
  exact node_ext hkeys (congrArg Table.key hsame) ▸ hj

/-- The nodes that can come next are those of the tables that can. -/
theorem Invariant.available_iff (hkeys : (batch.map Table.key).Nodup) {s : State batch}
    (hs : s.Invariant) {i : Node batch} :
    Available batch s.tables (batch.get i) ↔ rank i ∈ s.ready := by
  constructor
  · rintro ⟨-, hfresh, hsettled⟩
    have hfresh' : i ∉ s.emitted := mt (get_mem_tables hkeys).2 hfresh
    refine hs.rank_mem_ready.2 ⟨hfresh', ?_⟩
    rw [hs.degree_eq i hfresh', Finset.card_eq_zero, Finset.sdiff_eq_empty_iff_subset]
    intro j hj
    have hcome := hsettled (batch.get j) (List.get_mem _ _) (mem_predecessors.1 hj)
    exact List.mem_toFinset.2 ((get_mem_tables hkeys).1 hcome)
  · intro hi
    refine ⟨List.get_mem _ _, ?_, fun u hu hd => ?_⟩
    · exact mt (get_mem_tables hkeys).1 (hs.rank_mem_ready.1 hi).1
    · obtain ⟨j, rfl⟩ := List.mem_iff_get.1 hu
      exact (get_mem_tables hkeys).2 (hs.subset_of_ready hi j (mem_predecessors.2 hd))

/-- Ranks of nodes are in the order of the ranks of their tables. -/
theorem rank_lt_of_le (hkeys : (batch.map Table.key).Nodup) {i j : Node batch}
    (hle : rank i ≤ rank j) (hne : i ≠ j) : (batch.get i).rank < (batch.get j).rank := by
  have hkey : (batch.get i).key ≠ (batch.get j).key := mt (node_ext hkeys) hne
  simp only [rank, Table.rank, Prod.Lex.toLex_le_toLex, Prod.Lex.toLex_lt_toLex, Table.key] at *
  grind

/-- An iteration goes on with the next table. -/
theorem Iterates.isNext (hkeys : (batch.map Table.key).Nodup) {s s' : State batch} {i : Node batch}
    (h : s.Iterates i s') (hs : s.Invariant) : IsNext batch s.tables (batch.get i) := by
  refine ⟨(hs.available_iff hkeys).2 h.mem, fun u hu hne => ?_⟩
  obtain ⟨j, rfl⟩ := List.mem_iff_get.1 hu.mem
  have hij : i ≠ j := fun heq => hne (heq ▸ rfl)
  exact rank_lt_of_le hkeys (h.least _ ((hs.available_iff hkeys).1 hu)) hij

end State

/-! ## The loop and the creation of the batch -/

/-- The loop and the creation of the batch have come to the same point. -/
structure Mirrors (s : State batch) (p : Progress) : Prop where
  invariant : s.Invariant
  sound : p.Sound batch
  sorted : p.ready.Pairwise fun a b => a.rank < b.rank
  created_eq : p.created = s.tables

namespace Mirrors

variable {s s' : State batch} {p : Progress}

theorem start (hkeys : (batch.map Table.key).Nodup) :
    Mirrors (.start batch) (Progress.start batch) :=
  ⟨.start hkeys, .start batch, Progress.pairwise_ready_start hkeys, rfl⟩

/-- Both can go on with the same tables. -/
theorem mem_ready (h : Mirrors s p) (hkeys : (batch.map Table.key).Nodup) {t : Table} :
    t ∈ p.ready ↔ ∃ i, rank i ∈ s.ready ∧ batch.get i = t := by
  rw [← h.sound.available_iff hkeys, h.created_eq]
  constructor
  · intro ht
    obtain ⟨i, rfl⟩ := List.mem_iff_get.1 ht.mem
    exact ⟨i, (h.invariant.available_iff hkeys).1 ht, rfl⟩
  · rintro ⟨i, hi, rfl⟩
    exact (h.invariant.available_iff hkeys).2 hi

theorem ready_eq_nil_iff (h : Mirrors s p) (hkeys : (batch.map Table.key).Nodup) :
    p.ready = [] ↔ s.ready = ∅ := by
  rw [List.eq_nil_iff_forall_not_mem, Finset.eq_empty_iff_forall_notMem]
  constructor
  · intro hnone key hkey
    obtain ⟨i, -, -, rfl⟩ := h.invariant.mem_ready.1 hkey
    exact hnone _ ((h.mem_ready hkeys).2 ⟨i, hkey, rfl⟩)
  · intro hnone t ht
    obtain ⟨i, hi, -⟩ := (h.mem_ready hkeys).1 ht
    exact hnone _ hi

/-- Both go on with the same table. -/
theorem iterates (h : Mirrors s p) (hkeys : (batch.map Table.key).Nodup) {i : Node batch}
    (hi : s.Iterates i s') {t : Table} {rest : List Table} (ht : p.ready = t :: rest) :
    Mirrors s' (p.step t rest) := by
  have hnext := h.sound.isNext hkeys ht h.sorted
  rw [h.created_eq] at hnext
  have hsame : t = batch.get i := hnext.eq (hi.isNext hkeys h.invariant)
  refine ⟨h.invariant.iterates hi, h.sound.step ht,
    h.sound.pairwise_ready_step hkeys ht h.sorted, ?_⟩
  rw [Progress.step, h.created_eq, hsame, State.tables, State.tables, hi.emitted_eq,
    List.map_append]
  rfl

/-- Any number of iterations goes through, and the creation of the batch goes along. -/
theorem exists_run (h : Mirrors s p) (hkeys : (batch.map Table.key).Nodup) (n : Nat) :
    ∃ s', s.run n = some s' ∧ Mirrors s' (p.advance n)
      ∧ (s'.ready.Nonempty → s'.emitted.length = s.emitted.length + n) := by
  induction n generalizing s p with
  | zero => exact ⟨s, rfl, h, fun _ => rfl⟩
  | succ n ih =>
    rcases s.ready.eq_empty_or_nonempty with hempty | hne
    · have hnil := (h.ready_eq_nil_iff hkeys).2 hempty
      refine ⟨s, s.run_of_empty hempty _, ?_, fun hne => absurd hempty hne.ne_empty⟩
      rw [Progress.advance_of_nil hnil]
      exact h
    · obtain ⟨i, s₁, hstep, hi⟩ := h.invariant.exists_iterates hkeys hne
      obtain ⟨t, rest, ht⟩ :=
        List.exists_cons_of_ne_nil (mt (h.ready_eq_nil_iff hkeys).1 hne.ne_empty)
      obtain ⟨s', hrun, hmirrors, hlength⟩ := ih (h.iterates hkeys hi ht)
      refine ⟨s', ?_, ?_, fun hmore => ?_⟩
      · rw [State.run, hstep]
        exact hrun
      · rw [Progress.advance_succ ht]
        exact hmirrors
      · rw [hlength hmore, hi.emitted_eq, List.length_append, List.length_singleton]
        omega

/-- What is pending are the tables of the nodes that have not come. -/
theorem pending_perm (h : Mirrors s p) :
    p.pending.Perm (((List.finRange batch.length).filter (· ∉ s.emitted)).map batch.get) := by
  have hsplit : (s.emitted ++ (List.finRange batch.length).filter (· ∉ s.emitted)).Perm
      (List.finRange batch.length) := by
    refine (List.perm_ext_iff_of_nodup ?_ (List.nodup_finRange _)).2 fun i => ?_
    · refine List.nodup_append.2 ⟨h.invariant.nodup, (List.nodup_finRange _).filter _, ?_⟩
      rintro i hi _ hj rfl
      simp [hi] at hj
    · simp [Classical.em]
  have hall := hsplit.map batch.get
  rw [List.map_get_finRange, List.map_append] at hall
  have hsound := h.sound.perm
  rw [h.created_eq] at hsound
  exact (List.perm_append_left_iff _).1 (hsound.trans hall.symm)

theorem get_mem_pending (h : Mirrors s p) (hkeys : (batch.map Table.key).Nodup) {i : Node batch} :
    batch.get i ∈ p.pending ↔ i ∉ s.emitted := by
  rw [h.pending_perm.mem_iff]
  refine ⟨fun hmem => ?_, fun hi => List.mem_map_of_mem (by simp [hi])⟩
  obtain ⟨j, hj, hsame⟩ := List.mem_map.1 hmem
  rw [← node_ext hkeys (congrArg Table.key hsame)]
  simpa using hj

/-- The numbers of the loop count the pending tables that a table depends on. -/
theorem countP_pending (h : Mirrors s p) {i : Node batch} (hi : i ∉ s.emitted) :
    p.pending.countP (batch.get i).dependsOn = s.degree i := by
  have hset : ((List.finRange batch.length).filter fun j =>
      (batch.get i).dependsOn (batch.get j) = true ∧ j ∉ s.emitted).toFinset
        = predecessors batch i \ s.emitted.toFinset := by
    ext j
    simp [mem_predecessors]
  rw [h.pending_perm.countP_eq, List.countP_map, h.invariant.degree_eq i hi, ← hset,
    List.toFinset_card_of_nodup ((List.nodup_finRange _).filter _), List.countP_filter,
    List.countP_eq_length_filter]
  simp

/-- The tables that wait are those of the nodes that have not come and whose number is not zero,
each with that number. -/
theorem mem_waiting (h : Mirrors s p) (hkeys : (batch.map Table.key).Nodup) {w : Waiting} :
    w ∈ p.waiting ↔ ∃ i, i ∉ s.emitted ∧ s.degree i ≠ 0 ∧ w = ⟨batch.get i, s.degree i⟩ := by
  have hcount {w : Waiting} (hw : w ∈ p.waiting) :
      ∃ i, i ∉ s.emitted ∧ batch.get i = w.table ∧ s.degree i = w.count := by
    have hpending : w.table ∈ p.pending := List.mem_append_right _ (List.mem_map_of_mem hw)
    have hmem : w.table ∈ batch := h.sound.perm.mem_iff.1 (List.mem_append_right _ hpending)
    obtain ⟨i, hi⟩ := List.mem_iff_get.1 hmem
    have hfresh := (h.get_mem_pending hkeys).1 (hi ▸ hpending)
    exact ⟨i, hfresh, hi, by rw [h.sound.count_eq w hw, ← hi, h.countP_pending hfresh]⟩
  constructor
  · intro hw
    obtain ⟨i, hfresh, htable, hdegree⟩ := hcount hw
    refine ⟨i, hfresh, hdegree ▸ h.sound.count_ne_zero w hw, ?_⟩
    rw [htable, hdegree]
  · rintro ⟨i, hfresh, hdegree, rfl⟩
    rcases List.mem_append.1 ((h.get_mem_pending hkeys).2 hfresh) with hready | hwaiting
    · obtain ⟨j, hj, hsame⟩ := (h.mem_ready hkeys).1 hready
      obtain rfl := node_ext hkeys (congrArg Table.key hsame)
      exact absurd (h.invariant.rank_mem_ready.1 hj).2 hdegree
    · obtain ⟨w, hw, htable⟩ := List.mem_map.1 hwaiting
      obtain ⟨j, -, hsame, hcounts⟩ := hcount hw
      obtain rfl := node_ext hkeys (congrArg Table.key (hsame.trans htable))
      rw [← htable, hcounts]
      exact hw

end Mirrors

/-! ## The tables of the order -/

/-- The tables of nodes, each taken out of its slot; a slot from which a table was taken is empty.
-/
def takeSlots (slots : Node batch → Option Table) : List (Node batch) → List Table
  | [] => []
  | i :: rest => (slots i).toList ++ takeSlots (Function.update slots i none) rest

/-- Where no node comes twice, no slot is found empty. -/
theorem takeSlots_eq {slots : Node batch → Option Table} {order : List (Node batch)}
    (hn : order.Nodup) (hfull : ∀ i ∈ order, slots i = some (batch.get i)) :
    takeSlots slots order = order.map batch.get := by
  induction order generalizing slots with
  | nil => rfl
  | cons i rest ih =>
    obtain ⟨hi, hrest⟩ := List.nodup_cons.1 hn
    have hkept : ∀ j ∈ rest, Function.update slots i none j = some (batch.get j) := by
      intro j hj
      have hne : j ≠ i := fun heq => hi (heq ▸ hj)
      rw [Function.update_of_ne hne]
      exact hfull j (List.mem_cons_of_mem _ hj)
    rw [takeSlots, ih hrest hkept, hfull i List.mem_cons_self]
    rfl

/-! ## Whole batches -/

/-- The creation of a batch is at the point that the loop has come to: the same tables have come,
the same can come next, and each table that waits has the number that is stored for it. -/
structure Shows (p : Progress) (s : State batch) : Prop where
  created_eq : p.created = s.tables
  mem_ready : ∀ t, t ∈ p.ready ↔ ∃ i, rank i ∈ s.ready ∧ batch.get i = t
  mem_waiting : ∀ w, w ∈ p.waiting ↔
    ∃ i, i ∉ s.emitted ∧ s.degree i ≠ 0 ∧ w = ⟨batch.get i, s.degree i⟩

/-- When as many nodes have come as there are, all have. -/
theorem State.Invariant.mem_emitted {s : State batch} (hs : s.Invariant)
    (hlength : s.emitted.length = batch.length) (i : Node batch) : i ∈ s.emitted := by
  have hall : s.emitted.toFinset = Finset.univ := by
    rw [← Finset.card_eq_iff_eq_univ, List.toFinset_card_of_nodup hs.nodup, hlength,
      Fintype.card_fin]
  exact List.mem_toFinset.1 (hall ▸ Finset.mem_univ i)

/-- A loop that has not ended has not gone through as many iterations as there are tables. -/
theorem State.Invariant.ready_eq_empty {s : State batch} (hs : s.Invariant)
    (hlength : s.ready.Nonempty → s.emitted.length = batch.length) : s.ready = ∅ := by
  by_contra hne
  obtain ⟨key, hkey⟩ := Finset.nonempty_iff_ne_empty.2 hne
  obtain ⟨i, hi, -, -⟩ := hs.mem_ready.1 hkey
  exact hi (hs.mem_emitted (hlength ⟨key, hkey⟩) i)

theorem State.Invariant.tables_perm {s : State batch} (hs : s.Invariant)
    (hlength : s.emitted.length = batch.length) : s.tables.Perm batch := by
  have hall : s.emitted.Perm (List.finRange batch.length) :=
    (List.perm_ext_iff_of_nodup hs.nodup (List.nodup_finRange _)).2 fun i =>
      ⟨fun _ => List.mem_finRange i, fun _ => hs.mem_emitted hlength i⟩
  have hperm := hall.map batch.get
  rwa [List.map_get_finRange] at hperm

/-- The invariant holds after any number of iterations, none of which takes from the number zero,
and the creation of the batch is at the same point: so neither is anything taken from zero there.
While the loop has not ended, a table has come in each iteration. It has ended after as many
iterations as there are tables. Then each node that has come gives its table, and the batch is in
order when all have. -/
theorem run_sound (hkeys : (batch.map Table.key).Nodup) :
    (∀ n, ∃ s, (State.start batch).run n = some s ∧ s.Invariant
      ∧ (s.ready.Nonempty → s.emitted.length = n) ∧ Shows ((Progress.start batch).advance n) s)
    ∧ ∃ s, (State.start batch).run batch.length = some s ∧ s.ready = ∅
      ∧ takeSlots (fun i => some (batch.get i)) s.emitted = s.tables
      ∧ (s.emitted.length = batch.length →
        (takeSlots (fun i => some (batch.get i)) s.emitted).Perm batch)
      ∧ inOrder batch = if s.emitted.length < batch.length then .error (.cycle (onCycle batch))
        else .ok (takeSlots (fun i => some (batch.get i)) s.emitted) := by
  have hrun := (Mirrors.start hkeys).exists_run hkeys
  refine ⟨fun n => ?_, ?_⟩
  · obtain ⟨s, hs, hmirrors, hlength⟩ := hrun n
    refine ⟨s, hs, hmirrors.invariant, fun hne => ?_, hmirrors.created_eq,
      fun t => hmirrors.mem_ready hkeys, fun w => hmirrors.mem_waiting hkeys⟩
    rw [hlength hne]
    exact Nat.zero_add n
  · obtain ⟨s, hs, hmirrors, hlength⟩ := hrun batch.length
    have hslots : takeSlots (fun i => some (batch.get i)) s.emitted = s.tables :=
      takeSlots_eq hmirrors.invariant.nodup fun _ _ => rfl
    have hbound : (Progress.start batch).remaining ≤ batch.length := by
      have hpending := (Progress.start_pending_perm batch).length_eq
      simp only [Progress.pending, List.length_append, List.length_map] at hpending
      exact hpending.le
    have hcreated : (Progress.start batch).finish.created = s.tables := by
      rw [Progress.finish_eq_advance _ hbound, hmirrors.created_eq]
    have htables : s.tables.length = s.emitted.length := List.length_map _
    refine ⟨s, hs, hmirrors.invariant.ready_eq_empty fun hne => ?_, hslots, fun hall => ?_, ?_⟩
    · rw [hlength hne]
      exact Nat.zero_add _
    · rw [hslots]
      exact hmirrors.invariant.tables_perm hall
    · rw [inOrder_of_nodup hkeys, hcreated, hslots, htables]

/-- A table that refers to another twice, to itself and to a table elsewhere comes. Two tables that
wait for each other do not, and neither does one with a key that is written as that of another table
and refers back: each of these still has a number. -/
theorem run_sound_tangled :
    let a := sketch "app" "a" ["b", "b", "a", "elsewhere"]
    let b := sketch "app" "b" []
    let l := sketch "app" "l" ["r", "b"]
    let r := sketch "app" "r" ["l"]
    let o := { sketch "app" "x" ["o"] with name := "o" }
    (([a, b, l, r, o].map Table.key).Nodup
      ∧ ∃ s, (State.start [a, b, l, r, o]).run 5 = some s ∧ s.Invariant ∧ s.tables = [b, a]
        ∧ (∃ i, [a, b, l, r, o].get i = o ∧ i ∉ s.emitted ∧ s.degree i = 1)
        ∧ inOrder [a, b, l, r, o] = .error (.cycle (onCycle [a, b, l, r, o])))
    ∧ ([a, b].map Table.key).Nodup
      ∧ ∃ s, (State.start [a, b]).run 2 = some s ∧ s.ready = ∅
        ∧ takeSlots (fun i => some ([a, b].get i)) s.emitted = [b, a]
        ∧ inOrder [a, b] = .ok [b, a] := by
  intro a b l r o
  have htangled : ([a, b, l, r, o].map Table.key).Nodup := by decide
  have hfree : ([a, b].map Table.key).Nodup := by decide
  refine ⟨⟨htangled, ?_⟩, hfree, ?_⟩
  · have hcreated : ((Progress.start [a, b, l, r, o]).advance 5).created = [b, a] := by
      decide +kernel
    have hwaiting : ⟨o, 1⟩ ∈ ((Progress.start [a, b, l, r, o]).advance 5).waiting := by
      decide +kernel
    obtain ⟨s, hrun, hinv, -, hshows⟩ := (run_sound htangled).1 5
    obtain ⟨_, hrun', -, -, -, horder⟩ := (run_sound htangled).2
    obtain rfl := Option.some.inj (hrun.symm.trans hrun')
    obtain ⟨i, hi, -, hwait⟩ := (hshows.mem_waiting _).1 hwaiting
    have htables : s.tables = [b, a] := hshows.created_eq.symm.trans hcreated
    have hlength : s.emitted.length = 2 := by
      rw [← List.length_map (List.get _)]
      exact congrArg List.length htables
    refine ⟨s, hrun, hinv, htables, ⟨i, (Waiting.mk.inj hwait).1.symm, hi,
      (Waiting.mk.inj hwait).2.symm⟩, ?_⟩
    rw [horder, if_pos (by rw [hlength]; decide)]
  · have hvalue : inOrder [a, b] = .ok [b, a] := by decide +kernel
    obtain ⟨s, hrun, hempty, -, -, horder⟩ := (run_sound hfree).2
    refine ⟨s, hrun, hempty, ?_, hvalue⟩
    rw [hvalue] at horder
    split at horder
    · cases horder
    · exact (Except.ok.inj horder).symm

end Kahn

end Schemata.Sql
