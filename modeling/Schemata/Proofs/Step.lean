import Schemata.Emission.Compiler
import Schemata.Proofs.Success

/-!
# Steps that succeed

A step runs from a state and may fail. `Step.Yields` says that it succeeds, with its result and the
state it leaves; a sequence yields what its parts yield one after the other. `Step.Fails` says that
it fails, and with which error. Without hooks a unit is a computation without a state, and so is a
traversal of units.

## Main statements

* `Step.yields_bind`, `Step.yields_ofExcept`, `Step.yields_inUnit`: the parts of a step.
* `Step.fails_bind`, `Step.fails_ofExcept`, `Step.fails_inUnit`: where a step fails.
* `Step.yields_mapM`: a traversal whose parts leave the state as it is.
* `UnitHooks.run_none`: without hooks a unit is left alone.
-/

namespace Schemata.Emission

open Lowering Spec Sql Settings

variable {σ α β : Type}

namespace Step

/-- The outcome of a step and the state it leaves. -/
def outcome (x : Step σ α) (st : σ) : Except CompileError α × σ := x st

/-- From a state a step succeeds with a result and leaves a state. -/
def Yields (x : Step σ α) (st : σ) (a : α) (st' : σ) : Prop := x.outcome st = (.ok a, st')

/-- From a state a step fails with an error and leaves a state. -/
def Fails (x : Step σ α) (st : σ) (e : CompileError) (st' : σ) : Prop :=
  x.outcome st = (.error e, st')

theorem ext {x y : Step σ α} (h : ∀ st, x.outcome st = y.outcome st) : x = y := funext h

@[simp] theorem outcome_pure (a : α) (st : σ) : (pure a : Step σ α).outcome st = (.ok a, st) := rfl

@[simp] theorem outcome_ofExcept (x : Except CompileError α) (st : σ) :
    (ofExcept x).outcome st = (x, st) := rfl

/-- A step stops where it fails. -/
theorem outcome_bind (x : Step σ α) (f : α → Step σ β) (st : σ) :
    (x >>= f).outcome st =
      match x.outcome st with
      | (.ok a, mid) => (f a).outcome mid
      | (.error e, mid) => (.error e, mid) := by
  simp only [outcome, bind, ExceptT.bind, ExceptT.mk, StateT.bind, ExceptT.bindCont]
  rcases x st with ⟨_ | _, mid⟩ <;> rfl

theorem outcome_inUnit (kind : Kind) (name : String) (x : Step σ α) (st : σ) :
    (inUnit kind name x).outcome st =
      match x.outcome st with
      | (.ok a, mid) => (.ok a, mid)
      | (.error e, mid) => (.error (.inUnit kind name e), mid) := by
  simp only [outcome, inUnit, ExceptT.mk, ExceptT.run, bind, StateT.bind]
  rcases x st with ⟨_ | _, mid⟩ <;> rfl

theorem yields_pure {a b : α} {st st' : σ} :
    (pure a : Step σ α).Yields st b st' ↔ a = b ∧ st = st' := by
  simp [Yields]

theorem yields_bind {x : Step σ α} {f : α → Step σ β} {b : β} {st st' : σ} :
    (x >>= f).Yields st b st' ↔ ∃ a mid, x.Yields st a mid ∧ (f a).Yields mid b st' := by
  unfold Yields
  rw [outcome_bind]
  rcases x.outcome st with ⟨_ | a, mid⟩ <;> simp

theorem yields_ofExcept {x : Except CompileError α} {a : α} {st st' : σ} :
    (ofExcept x).Yields st a st' ↔ x = .ok a ∧ st = st' := by
  simp [Yields]

/-- Putting failures inside a unit changes nothing in a success. -/
theorem yields_inUnit {kind : Kind} {name : String} {x : Step σ α} {a : α} {st st' : σ} :
    (inUnit kind name x).Yields st a st' ↔ x.Yields st a st' := by
  unfold Yields
  rw [outcome_inUnit]
  rcases x.outcome st with ⟨_ | b, mid⟩ <;> simp

/-- A step whose result has been computed to have a property yields one that has it. -/
theorem exists_yields_of_any {x : Step Unit α} {p : α → Bool}
    (h : (x.outcome ()).1.toOption.any p = true) : ∃ a, x.Yields () a () ∧ p a = true := by
  cases hout : (x.outcome ()).1 with
  | ok a =>
    rw [hout] at h
    exact ⟨a, Prod.ext hout rfl, h⟩
  | error e =>
    rw [hout] at h
    cases h

theorem exists_yields_of_isOk {x : Step Unit α} (h : (x.outcome ()).1.isOk = true) :
    ∃ a, x.Yields () a () := by
  have hany : (x.outcome ()).1.toOption.any (fun _ => true) = true := by
    cases hout : (x.outcome ()).1 with
    | ok a => rfl
    | error e =>
      rw [hout] at h
      cases h
  obtain ⟨a, ha, -⟩ := exists_yields_of_any hany
  exact ⟨a, ha⟩

/-! ## Steps that fail -/

theorem not_fails_pure {a : α} {e : CompileError} {st st' : σ} :
    ¬ (pure a : Step σ α).Fails st e st' := by
  simp [Fails]

/-- A sequence fails where the first of its parts does that fails. -/
theorem fails_bind {x : Step σ α} {f : α → Step σ β} {e : CompileError} {st st' : σ} :
    (x >>= f).Fails st e st' ↔
      x.Fails st e st' ∨ ∃ a mid, x.Yields st a mid ∧ (f a).Fails mid e st' := by
  unfold Fails Yields
  rw [outcome_bind]
  rcases x.outcome st with ⟨_ | a, mid⟩ <;> simp

theorem fails_ofExcept {x : Except CompileError α} {e : CompileError} {st st' : σ} :
    (ofExcept x).Fails st e st' ↔ x = .error e ∧ st = st' := by
  simp [Fails]

/-- Inside a unit a failure carries the unit. -/
theorem fails_inUnit {kind : Kind} {name : String} {x : Step σ α} {e : CompileError}
    {st st' : σ} : (inUnit kind name x).Fails st e st' ↔
      ∃ cause, x.Fails st cause st' ∧ e = .inUnit kind name cause := by
  unfold Fails
  rw [outcome_inUnit]
  rcases x.outcome st with ⟨_ | b, mid⟩ <;> simp [and_comm, eq_comm]

/-! ## Computations without a state -/

/-- A computation without a state leaves every state as it is, so its success shows from any. -/
theorem ofExcept_eq_pure [Nonempty σ] {x : Except CompileError α} {a : α} :
    (ofExcept x : Step σ α) = pure a ↔ x = .ok a := by
  constructor
  · intro h
    obtain ⟨st⟩ := ‹Nonempty σ›
    have hst := congrArg (fun y => (y.outcome st).1) h
    simpa using hst
  · rintro rfl
    rfl

theorem pure_inj [Nonempty σ] {a b : α} : (pure a : Step σ α) = pure b ↔ a = b := by
  have hpure : (pure a : Step σ α) = ofExcept (.ok a) := rfl
  rw [hpure, ofExcept_eq_pure, Except.ok.injEq]

theorem ofExcept_bind (x : Except CompileError α) (f : α → Except CompileError β) :
    (ofExcept x >>= fun a => ofExcept (f a) : Step σ β) = ofExcept (x >>= f) := by
  refine ext fun st => ?_
  cases x <;> rw [outcome_bind] <;> rfl

/-- A traversal whose parts leave the state as it is does so too. -/
theorem yields_mapM {f : α → Step σ β} {R : α → β → Prop}
    (hf : ∀ a b st st', (f a).Yields st b st' ↔ R a b ∧ st = st') {l : List α} {bs : List β}
    {st st' : σ} : (l.mapM f).Yields st bs st' ↔ List.Forall₂ R l bs ∧ st = st' := by
  induction l generalizing bs with
  | nil => rw [List.mapM_nil, yields_pure, List.forall₂_nil_left_iff, eq_comm]
  | cons a l ih =>
    rw [List.mapM_cons, yields_bind, List.forall₂_cons_left_iff]
    simp only [yields_bind, yields_pure, hf]
    constructor
    · rintro ⟨b, _, ⟨hb, rfl⟩, bs', _, hrest, rfl, rfl⟩
      obtain ⟨hbs, heq⟩ := ih.1 hrest
      exact ⟨⟨b, bs', hb, hbs, rfl⟩, heq⟩
    · rintro ⟨⟨b, bs', hb, hbs, rfl⟩, rfl⟩
      exact ⟨b, st, ⟨hb, rfl⟩, bs', st, ih.2 ⟨hbs, rfl⟩, rfl, rfl⟩

/-- A traversal whose parts all succeed at once. -/
theorem mapM_eq_pure {f : α → Step σ β} {l : List α} {bs : List β}
    (h : List.Forall₂ (fun a b => f a = pure b) l bs) : l.mapM f = pure bs := by
  induction h with
  | nil => rfl
  | cons hab _ ih => rw [List.mapM_cons, hab, ih, pure_bind, pure_bind]

end Step

/-! ## Units and their hooks -/

theorem stateM_bind (x : StateM σ α) (f : α → StateM σ β) (st : σ) :
    (x >>= f) st = f (x st).1 (x st).2 := rfl

theorem Step.outcome_ofWrite (x : ExceptT WriteError (StateM σ) α) (st : σ) :
    (Step.ofWrite x).outcome st = ((x st).1.mapError .write, (x st).2) := by
  simp only [Step.outcome, Step.ofWrite, ExceptT.mk, ExceptT.run, stateM_bind]
  rcases x st with ⟨_ | _, _⟩ <;> rfl

/-- A unit runs between its hooks, and the failure hook has the last word on an error. -/
theorem UnitHooks.outcome_run {C I O : Type} (h : UnitHooks σ C I O) (c : C) (i : I)
    (unit : C → I → Step σ O) (st : σ) :
    (h.run c i unit).outcome st =
      match (h.start c i).outcome st with
      | (.error e, mid) => ((h.failure c i e mid).map .error id : Except CompileError O × σ)
      | (.ok (c, i), mid) =>
        match (unit c i >>= h.success).outcome mid with
        | (.error e, mid) => (h.failure c i e mid).map .error id
        | (.ok o, mid) => (.ok o, mid) := by
  simp only [Step.outcome, UnitHooks.run, ExceptT.mk, ExceptT.run]
  rw [stateM_bind]
  rcases h.start c i st with ⟨_ | ⟨c, i⟩, mid⟩
  · rfl
  · simp only
    rw [stateM_bind]
    rcases (unit c i >>= h.success) mid with ⟨_ | _, mid⟩ <;> rfl

/-- Without hooks a unit is left alone. -/
@[simp] theorem UnitHooks.run_none {C I O : Type} (c : C) (i : I) (unit : C → I → Step σ O) :
    ({} : UnitHooks σ C I O).run c i unit = unit c i := by
  have hsuccess : ({} : UnitHooks σ C I O).success = pure := rfl
  have hstart : (({} : UnitHooks σ C I O).start c i) = pure (c, i) := rfl
  refine Step.ext fun st => ?_
  rw [UnitHooks.outcome_run, hsuccess, hstart, Step.outcome_pure]
  simp only [bind_pure]
  rcases (unit c i).outcome st with ⟨_ | _, mid⟩ <;> rfl

end Schemata.Emission
