import Mathlib.Data.List.Chain
import Mathlib.Data.Set.Finite.List
import Mathlib.Order.WellFounded

/-!
# Cycles of a relation

What keeps tables, or models, from being put in order is a cycle. A cycle is given by its elements,
which are distinct; one element that is related to itself is the shortest. Elements that lead to
each other lie on a cycle, and finitely many elements that all lead on among themselves contain one.

## Main definitions

* `IsCycle`: distinct elements, each related to the next and the last to the first.

## Main statements

* `exists_path`: what can be reached can be reached without passing an element twice.
* `exists_isCycle_iff`: the elements on cycles of two or more.
* `exists_isCycle_of_forall_exists`: finitely many elements that lead on contain a cycle.
-/

namespace Schemata

open Relation

variable {α : Type} {R : α → α → Prop} {a b : α}

/-- Distinct elements, each related to the next, and the last to the first. -/
structure IsCycle (R : α → α → Prop) (l : List α) : Prop where
  nodup : l.Nodup
  chain : l.IsChain R
  closes : ∃ first last, l.head? = some first ∧ l.getLast? = some last ∧ R last first

/-! ## Paths -/

/-- What can be reached can be reached without passing an element twice. -/
theorem exists_path (h : ReflTransGen R a b) :
    ∃ l : List α, l.Nodup ∧ l.IsChain R ∧ l.head? = some a ∧ l.getLast? = some b := by
  induction h using ReflTransGen.head_induction_on with
  | refl => exact ⟨[b], List.nodup_singleton b, .singleton b, rfl, rfl⟩
  | @head a c hstep _ ih =>
    obtain ⟨l, hnodup, hchain, hhead, hlast⟩ := ih
    by_cases ha : a ∈ l
    -- the path comes back to where it starts, so what is before can be left out
    · obtain ⟨before, after, rfl⟩ := List.append_of_mem ha
      refine ⟨a :: after, (List.nodup_append.1 hnodup).2.1, hchain.right_of_append, rfl, ?_⟩
      rw [← hlast, List.getLast?_append_of_ne_nil _ (List.cons_ne_nil a after)]
    · have hne : l ≠ [] := by
        intro hnil
        simp [hnil] at hhead
      refine ⟨a :: l, List.nodup_cons.2 ⟨ha, hnodup⟩, List.isChain_cons.2 ⟨?_, hchain⟩, rfl, ?_⟩
      · intro d hd
        obtain rfl : c = d := by simpa [hhead] using hd
        exact hstep
      · rw [← hlast, ← List.singleton_append, List.getLast?_append_of_ne_nil _ hne]

theorem reflTransGen_of_isChain {l : List α} (h : (a :: l).IsChain R) :
    ∀ b ∈ a :: l, ReflTransGen R a b := by
  induction l generalizing a with
  | nil =>
    intro b hb
    rw [List.mem_singleton.1 hb]
  | cons c l ih =>
    obtain ⟨hstep, hrest⟩ := List.isChain_cons_cons.1 h
    intro b hb
    rcases List.mem_cons.1 hb with rfl | hb
    · exact .refl
    · exact .head hstep (ih hrest b hb)

/-! ## Cycles -/

namespace IsCycle

variable {l : List α}

theorem ne_nil (h : IsCycle R l) : l ≠ [] := by
  rintro rfl
  obtain ⟨first, last, hfirst, -, -⟩ := h.closes
  cases hfirst

/-- The elements of a cycle can be reached from each other. -/
theorem transGen (h : IsCycle R l) (ha : a ∈ l) (hb : b ∈ l) : TransGen R a b := by
  obtain ⟨first, last, hfirst, hlast, hclose⟩ := h.closes
  obtain ⟨rest, rfl⟩ : ∃ rest, l = first :: rest := by
    cases l with
    | nil => cases hfirst
    | cons x rest => exact ⟨rest, by rw [Option.some.inj hfirst]⟩
  obtain ⟨before, after, hsplit⟩ := List.append_of_mem ha
  have hend : last ∈ a :: after := by
    rw [hsplit, List.getLast?_append_of_ne_nil _ (List.cons_ne_nil a after)] at hlast
    exact List.mem_of_getLast? hlast
  have htail : (a :: after).IsChain R := (hsplit ▸ h.chain).right_of_append
  have hlastStep : TransGen R a first :=
    TransGen.tail' (reflTransGen_of_isChain htail last hend) hclose
  exact hlastStep.trans_left (reflTransGen_of_isChain h.chain b hb)

/-- An element of a cycle is related to an element of it. -/
theorem exists_rel (h : IsCycle R l) (hb : b ∈ l) : ∃ a ∈ l, R a b := by
  obtain ⟨first, last, hfirst, hlast, hclose⟩ := h.closes
  obtain ⟨before, after, rfl⟩ := List.append_of_mem hb
  rcases List.eq_nil_or_concat before with rfl | ⟨before, a, rfl⟩
  · obtain rfl : b = first := by simpa using hfirst
    exact ⟨last, List.mem_of_getLast? hlast, hclose⟩
  · refine ⟨a, by simp, ?_⟩
    have hchain := h.chain
    rw [List.concat_eq_append, List.append_assoc, List.singleton_append] at hchain
    exact (List.isChain_cons_cons.1 hchain.right_of_append).1

end IsCycle

/-- From an element that is reached again, the steps back make a cycle with the step away. -/
theorem exists_isCycle_of_step (hstep : R a b) (hback : ReflTransGen R b a) :
    ∃ l, IsCycle R l ∧ a ∈ l ∧ b ∈ l := by
  obtain ⟨l, hnodup, hchain, hhead, hlast⟩ := exists_path hback
  exact ⟨l, ⟨hnodup, hchain, b, a, hhead, hlast, hstep⟩, List.mem_of_getLast? hlast,
    List.mem_of_head? hhead⟩

theorem exists_isCycle_of_transGen (h : TransGen R a a) : ∃ l, IsCycle R l ∧ a ∈ l := by
  obtain ⟨b, hstep, hback⟩ := TransGen.head'_iff.1 h
  obtain ⟨l, hl, ha, -⟩ := exists_isCycle_of_step hstep hback
  exact ⟨l, hl, ha⟩

/-- The elements on cycles of two or more are those that lead to another one and back. -/
theorem exists_isCycle_iff : (∃ l, IsCycle R l ∧ 2 ≤ l.length ∧ a ∈ l) ↔
    ∃ b, b ≠ a ∧ ReflTransGen R a b ∧ ReflTransGen R b a := by
  constructor
  · rintro ⟨l, hl, hlength, ha⟩
    obtain ⟨b, hb, hne⟩ : ∃ b ∈ l, b ≠ a := by
      by_contra! hall
      have hsub : l.length ≤ [a].length :=
        (List.subperm_of_subset hl.nodup fun b hb => List.mem_singleton.2 (hall b hb)).length_le
      simp at hsub
      omega
    exact ⟨b, hne, (hl.transGen ha hb).to_reflTransGen, (hl.transGen hb ha).to_reflTransGen⟩
  · rintro ⟨b, hne, hgo, hback⟩
    -- a path that passes no element twice leaves the first one with its first step
    obtain ⟨l, hnodup, hchain, hhead, hlast⟩ := exists_path hgo
    obtain ⟨c, hc, hstep, hrest⟩ : ∃ c, c ≠ a ∧ R a c ∧ ReflTransGen R c b := by
      match l, hnodup, hchain, hhead, hlast with
      | [x], _, _, hhead, hlast =>
        cases hhead
        cases hlast
        exact absurd rfl hne
      | x :: c :: rest, hnodup, hchain, hhead, hlast =>
        cases hhead
        obtain ⟨hstep, hrest⟩ := List.isChain_cons_cons.1 hchain
        refine ⟨c, ?_, hstep, reflTransGen_of_isChain hrest b ?_⟩
        · rintro rfl
          simp at hnodup
        · rw [List.getLast?_cons_cons] at hlast
          exact List.mem_of_getLast? hlast
    obtain ⟨l, hl, ha, hcl⟩ := exists_isCycle_of_step hstep (hrest.trans hback)
    refine ⟨l, hl, ?_, ha⟩
    have hsub : [a, c].length ≤ l.length :=
      (List.subperm_of_subset (by simpa using hc.symm) (by simp [ha, hcl])).length_le
    simpa using hsub

/-- Finitely many elements that all lead on among themselves contain a cycle. -/
theorem exists_isCycle_of_forall_exists {l : List α} (hne : l ≠ [])
    (h : ∀ a ∈ l, ∃ b ∈ l, R a b) : ∃ cycle, IsCycle R cycle := by
  by_contra hnone
  -- without cycles, going on is well-founded, so some element leads nowhere
  let Later : {a // a ∈ l} → {a // a ∈ l} → Prop := fun x y => TransGen R y.1 x.1
  have : Finite {a // a ∈ l} := List.finite_toSet l
  have : IsTrans _ Later := ⟨fun x y z hxy hyz => hyz.trans hxy⟩
  have : Std.Irrefl Later := by
    refine ⟨fun x hx => hnone ?_⟩
    obtain ⟨cycle, hcycle, -⟩ := exists_isCycle_of_transGen hx
    exact ⟨cycle, hcycle⟩
  obtain ⟨first, hfirst⟩ := List.exists_mem_of_ne_nil l hne
  obtain ⟨last, -, hlast⟩ := (Finite.wellFounded_of_trans_of_irrefl Later).has_min Set.univ
    ⟨⟨first, hfirst⟩, trivial⟩
  obtain ⟨b, hb, hstep⟩ := h last.1 last.2
  exact hlast ⟨b, hb⟩ trivial (TransGen.single hstep)

end Schemata
