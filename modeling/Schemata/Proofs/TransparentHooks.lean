import Schemata.Proofs.FailFast

/-!
# Hooks that change nothing

Hooks may keep a state of their own and see that of the writers. Where start hooks return settings
and input as they were, and success hooks the output, a compilation with hooks goes as the one
without: it succeeds when that does, with the same schema. When it fails, the failure hook of the
unit that failed is called once, with the settings and the input of the unit and the error, and what
it returns takes the place of the error, with the same unit around it.

That the failure hook is called once is said by comparing three runs: without hooks, with the hooks
but without failure hooks, and with all hooks. The third is the second up to the failure, and then
one call.

## Main definitions

* `keeping`, `Writers.beside`: computations and writers beside a second state that they do not see.
* `Hooks.Transparent`: start and success hooks change nothing but their own state.
* `Hooks.muted`: the hooks without failure hooks.
* `Fault`, `Fault.Occurs`, `Fault.report`: what fails, when it does, and who is told.
* `Shadows`: how the three runs go together.

## Main statements

* `UnitHooks.Transparent.shadows`: one unit.
* `Shadows.bind`, `Shadows.mapM`: one step after the other.
* `shadows_compileAll`, `compileAll_transparent`: whole compilations.
-/

namespace Schemata.Emission

open Lowering Spec Sql Settings

variable {σ τ α β C I O : Type}

/-! ## A second state -/

/-- A computation that keeps a second state as it is. -/
def keeping (τ : Type) {ε : Type} (x : ExceptT ε (StateM σ) α) : ExceptT ε (StateM (σ × τ)) α :=
  ExceptT.mk fun st => ((x st.1).1, ((x st.1).2, st.2))

/-- A writer beside a second state. -/
def Writer.beside (τ : Type) (w : Writer σ) : Writer (σ × τ) where
  table t := keeping τ (w.table t)
  view v := keeping τ (w.view v)
  seed s := keeping τ (w.seed s)

/-- Writers beside a second state. -/
def Writers.beside (τ : Type) (w : Writers σ) : Writers (σ × τ) where
  models := w.models.beside τ
  enumerations := w.enumerations.beside τ
  entities := w.entities.beside τ
  structures := w.structures.map (Writer.beside τ)

theorem Writers.forKind_beside (w : Writers σ) (kind : Kind) :
    (w.beside τ).forKind kind = (w.forKind kind).map (Writer.beside τ) := by
  cases kind with
  | model => rfl
  | enumeration => rfl
  | entity => rfl
  | record => cases h : w.structures <;> simp [forKind, beside, h, Except.map]

namespace Step

theorem outcome_keeping (x : Step σ α) (st : σ) (t : τ) :
    outcome (keeping τ x : Step (σ × τ) α) (st, t) = ((x.outcome st).1, ((x.outcome st).2, t)) :=
  rfl

theorem ofExcept_ok (a : α) : (ofExcept (.ok a) : Step σ α) = pure a := rfl

theorem keeping_bind (x : Step σ α) (f : α → Step σ β) :
    (keeping τ (x >>= f) : Step (σ × τ) β)
      = (keeping τ x : Step (σ × τ) α) >>= fun a => (keeping τ (f a) : Step (σ × τ) β) := by
  refine ext fun (st, t) => ?_
  rw [outcome_keeping, outcome_bind, outcome_bind, outcome_keeping]
  rcases x.outcome st with ⟨_ | a, mid⟩ <;> rfl

theorem ofWrite_keeping (x : ExceptT WriteError (StateM σ) α) :
    ofWrite (keeping τ x) = (keeping τ (ofWrite x : Step σ α) : Step (σ × τ) α) := by
  refine ext fun (st, t) => ?_
  rw [outcome_keeping, outcome_ofWrite, outcome_ofWrite]
  rfl

theorem Yields.keeping {x : Step σ α} {st st' : σ} {a : α} (h : x.Yields st a st') (t : τ) :
    Yields (Emission.keeping τ x : Step (σ × τ) α) (st, t) a (st', t) := by
  rw [Yields, outcome_keeping, h]

theorem Fails.keeping {x : Step σ α} {st st' : σ} {e : CompileError} (h : x.Fails st e st')
    (t : τ) : Fails (Emission.keeping τ x : Step (σ × τ) α) (st, t) e (st', t) := by
  rw [Fails, outcome_keeping, h]

end Step

/-! ## Hooks around a unit -/

namespace UnitHooks

/-- The hooks without the failure hook. -/
def muted (h : UnitHooks σ C I O) : UnitHooks σ C I O := { h with onFailure := none }

/-- Start and success hooks return what they are given. They may change their own state, which is
beside another, but not that. -/
structure Transparent (h : UnitHooks (σ × τ) C I O) : Prop where
  onStart : ∀ hook ∈ h.onStart, ∀ c i st, ∃ t, (hook c i).Yields st (c, i) (st.1, t)
  onSuccess : ∀ hook ∈ h.onSuccess, ∀ o st, ∃ t, (hook o).Yields st o (st.1, t)

theorem yields_run {h : UnitHooks σ C I O} {c c' : C} {i i' : I} {o o' : O}
    {unit : C → I → Step σ O} {st mid mid' st' : σ}
    (hstart : (h.start c i).Yields st (c', i') mid) (hunit : (unit c' i').Yields mid o mid')
    (hsuccess : (h.success o).Yields mid' o' st') : (h.run c i unit).Yields st o' st' := by
  have hrest : (unit c' i' >>= h.success).Yields mid o' st' :=
    Step.yields_bind.2 ⟨o, mid', hunit, hsuccess⟩
  rw [Step.Yields, outcome_run, hstart]
  dsimp only
  rw [hrest]

theorem fails_run {h : UnitHooks σ C I O} {c c' : C} {i i' : I} {e : CompileError}
    {unit : C → I → Step σ O} {st mid st' : σ} (hstart : (h.start c i).Yields st (c', i') mid)
    (hunit : (unit c' i').Fails mid e st') :
    (h.run c i unit).Fails st (h.failure c' i' e st').1 (h.failure c' i' e st').2 := by
  have hrest : (unit c' i' >>= h.success).Fails mid e st' := Step.fails_bind.2 (.inl hunit)
  rw [Step.Fails, outcome_run, hstart]
  dsimp only
  rw [hrest]
  rfl

theorem Transparent.start {h : UnitHooks (σ × τ) C I O} (hh : h.Transparent) (c : C) (i : I)
    (st : σ) (t : τ) : ∃ t', (h.start c i).Yields (st, t) (c, i) (st, t') := by
  unfold UnitHooks.start
  cases hhook : h.onStart with
  | none => exact ⟨t, rfl⟩
  | some hook => exact hh.onStart hook hhook c i (st, t)

theorem Transparent.success {h : UnitHooks (σ × τ) C I O} (hh : h.Transparent) (o : O) (st : σ)
    (t : τ) : ∃ t', (h.success o).Yields (st, t) o (st, t') := by
  unfold UnitHooks.success
  cases hhook : h.onSuccess with
  | none => exact ⟨t, rfl⟩
  | some hook => exact hh.onSuccess hook hhook o (st, t)

end UnitHooks

namespace Hooks

/-- The hooks without failure hooks. -/
def muted (h : Hooks σ) : Hooks σ where
  model := h.model.muted
  enumeration := h.enumeration.muted
  entity := h.entity.muted
  structures := h.structures.muted
  writeTable := h.writeTable.muted
  writeView := h.writeView.muted

/-- The start and success hooks around every kind of unit return what they are given. -/
structure Transparent (h : Hooks (σ × τ)) : Prop where
  model : h.model.Transparent
  enumeration : h.enumeration.Transparent
  entity : h.entity.Transparent
  structures : h.structures.Transparent
  writeTable : h.writeTable.Transparent
  writeView : h.writeView.Transparent

end Hooks

/-! ## What fails -/

/-- A cause is told to a hook, whose answer takes its place. Without a hook it stays as it is. -/
def tell (hook : Option (C → I → CompileError → StateM σ CompileError)) (c : C) (i : I)
    (cause : CompileError) : StateM σ CompileError :=
  match hook with
  | some hook => hook c i cause
  | none => pure cause

theorem UnitHooks.failure_eq (h : UnitHooks σ C I O) (c : C) (i : I) :
    h.failure c i = tell h.onFailure c i := rfl

/-- Who is told when a stage fails. There are no hooks around checks. -/
def Stage.report (hooks : Hooks σ) (s : Settings) : Stage → CompileError → StateM σ CompileError
  | settings | structureWriter => pure
  | enumeration _ e => tell hooks.enumeration.onFailure s.enumerations e
  | model _ m => tell hooks.model.onFailure s.models m
  | structures => tell hooks.structures.onFailure s.structures ()
  | entity _ e => tell hooks.entity.onFailure s.linked.entities e

/-- What can fail in a compilation: a stage, the order of the tables, or the writing of a piece. -/
inductive Fault where
  | stage (x : Stage)
  | order
  | piece (p : Piece)

namespace Fault

/-- The error of a compilation that fails: the unit stands around the cause, if there is one. -/
def error : Fault → CompileError → CompileError
  | stage x => x.error
  | order => id
  | piece p => .inUnit p.entry.kind p.entry.source

/-- Who is told of the cause: the failure hook of the unit, with the settings and the input of the
unit. Without one, the cause stays as it is. -/
def report (hooks : Hooks σ) (s : Settings) : Fault → CompileError → StateM σ CompileError
  | stage x => x.report hooks s
  | order => pure
  | piece (.table p) => tell hooks.writeTable.onFailure () p.table
  | piece (.view _ v) => tell hooks.writeView.onFailure () v

/-- From a state a fault occurs in a compilation without hooks, with its cause and the state that is
left. -/
inductive Occurs (s : Settings) (r : Registry) (w : Writers σ) (st : σ) :
    Fault → CompileError → σ → Prop
  | stage {x : Stage} {cause : CompileError} (mem : x ∈ stages r)
      (failed : x.cause? s r w = some cause) : Occurs s r w st (.stage x) cause st
  | order {u : Units} {o : OrderError} (units : u.Of (Compiler.ofSettings s : Compiler σ) r)
      (failed : inOrder (u.products.map (·.table)) = .error o) :
      Occurs s r w st .order (.order o) st
  /-- All pieces before are written, and this one is refused. -/
  | piece {u : Units} {tables : List Product} {before after : List Piece} {p : Piece}
      {schema : Schema} {mid st' : σ} {cause : CompileError}
      (units : u.Of (Compiler.ofSettings s : Compiler σ) r)
      (perm : tables.Perm u.products)
      (ordered : inOrder (u.products.map (·.table)) = .ok (tables.map (·.table)))
      (pieces_eq : u.pieces tables = before ++ p :: after)
      (written : (writeAll w before {}).Yields st schema mid)
      (failed : (p.write w).Fails mid (.inUnit p.entry.kind p.entry.source cause) st') :
      Occurs s r w st (.piece p) cause st'

end Fault

/-! ## Three runs -/

/-- How three runs of a step go together: without hooks, without failure hooks, and with all hooks.
Either all three succeed, with one result, or a fault occurs, and the third run has gone as the
second when the fault is reported. -/
inductive Shadows (F : Fault → CompileError → σ → Prop) (hooks : Hooks (σ × τ)) (s : Settings)
    (plain : Step σ α) (muted full : Step (σ × τ) α) (st : σ) (t : τ) : Prop
  | done {a : α} {st' : σ} {t' : τ}
      (yields : plain.Yields st a st')
      (muted_yields : muted.Yields (st, t) a (st', t'))
      (full_yields : full.Yields (st, t) a (st', t'))
  | failed {f : Fault} {cause : CompileError} {st' : σ} {t' : τ}
      (occurs : F f cause st')
      (fails : plain.Fails st (f.error cause) st')
      (muted_fails : muted.Fails (st, t) (f.error cause) (st', t'))
      (full_fails : full.Fails (st, t) (f.error (f.report hooks s cause (st', t')).1)
        (f.report hooks s cause (st', t')).2)

variable {F : Fault → CompileError → σ → Prop} {hooks : Hooks (σ × τ)} {s : Settings}

namespace Shadows

theorem pure (a : α) (st : σ) (t : τ) :
    Shadows F hooks s (Pure.pure a) (Pure.pure a) (Pure.pure a) st t :=
  .done rfl rfl rfl

/-- A check without hooks around it goes the same in all three runs. -/
theorem ofExcept {x : Except CompileError α} {st : σ} (t : τ)
    (hx : ∀ e, x = .error e →
      ∃ f cause, F f cause st ∧ f.error cause = e ∧ f.report hooks s cause = Pure.pure cause) :
    Shadows F hooks s (Step.ofExcept x) (Step.ofExcept x) (Step.ofExcept x) st t := by
  cases x with
  | ok a => exact .done rfl rfl rfl
  | error e =>
    obtain ⟨f, cause, hf, rfl, hreport⟩ := hx e rfl
    refine .failed hf rfl rfl ?_
    rw [hreport]
    rfl

/-- One step after the other. The second is taken where the first has left its state. -/
theorem bind {plain : Step σ α} {muted full : Step (σ × τ) α} {plain' : α → Step σ β}
    {muted' full' : α → Step (σ × τ) β} {st : σ} {t : τ}
    (h : Shadows F hooks s plain muted full st t)
    (h' : ∀ a st' t', plain.Yields st a st' →
      Shadows F hooks s (plain' a) (muted' a) (full' a) st' t') :
    Shadows F hooks s (plain >>= plain') (muted >>= muted') (full >>= full') st t := by
  cases h with
  | failed occurs fails muted_fails full_fails =>
    exact .failed occurs (Step.fails_bind.2 (.inl fails)) (Step.fails_bind.2 (.inl muted_fails))
      (Step.fails_bind.2 (.inl full_fails))
  | done yields muted_yields full_yields =>
    cases h' _ _ _ yields with
    | failed occurs fails muted_fails full_fails =>
      exact .failed occurs (Step.fails_bind.2 (.inr ⟨_, _, yields, fails⟩))
        (Step.fails_bind.2 (.inr ⟨_, _, muted_yields, muted_fails⟩))
        (Step.fails_bind.2 (.inr ⟨_, _, full_yields, full_fails⟩))
    | done yields' muted_yields' full_yields' =>
      exact .done (Step.yields_bind.2 ⟨_, _, yields, yields'⟩)
        (Step.yields_bind.2 ⟨_, _, muted_yields, muted_yields'⟩)
        (Step.yields_bind.2 ⟨_, _, full_yields, full_yields'⟩)

/-- A traversal whose parts leave the state of the run without hooks as it is. -/
theorem mapM {plain : α → Step σ β} {muted full : α → Step (σ × τ) β} {st : σ} {l : List α}
    (h : ∀ a ∈ l, ∀ t, Shadows F hooks s (plain a) (muted a) (full a) st t)
    (hst : ∀ a b st', (plain a).Yields st b st' → st = st') (t : τ) :
    Shadows F hooks s (l.mapM plain) (l.mapM muted) (l.mapM full) st t := by
  induction l generalizing t with
  | nil => exact .pure [] st t
  | cons a l ih =>
    simp only [List.mapM_cons]
    refine (h a List.mem_cons_self t).bind fun b st' t' hyields => ?_
    obtain rfl := hst a b st' hyields
    refine (ih (fun a ha => h a (List.mem_cons_of_mem _ ha)) t').bind fun bs st' t' _ => ?_
    exact .pure (b :: bs) st' t'

end Shadows

/-- A unit with transparent hooks around it. -/
theorem UnitHooks.Transparent.shadows {h : UnitHooks (σ × τ) C I O} (hh : h.Transparent) {c : C}
    {i : I} {x : Step σ O} {unit : C → I → Step (σ × τ) O} (hunit : unit c i = keeping τ x)
    {kind : Kind} {name : String} {f : Fault} (herror : f.error = .inUnit kind name)
    (hreport : f.report hooks s = tell h.onFailure c i) {st : σ}
    (hF : ∀ cause st', x.Fails st cause st' → F f cause st') (t : τ) :
    Shadows F hooks s (Step.inUnit kind name x) (Step.inUnit kind name (h.muted.run c i unit))
      (Step.inUnit kind name (h.run c i unit)) st t := by
  -- the start hook has changed its own state alone, so the unit sees what it was given
  obtain ⟨t₁, hstart⟩ := hh.start c i st t
  rcases hout : x.outcome st with ⟨e | o, st'⟩
  · have hx : x.Fails st e st' := hout
    have hfails : (unit c i).Fails (st, t₁) e (st', t₁) := hunit ▸ hx.keeping t₁
    have hplain : (Step.inUnit kind name x).Fails st (f.error e) st' :=
      Step.fails_inUnit.2 ⟨e, hx, by rw [herror]⟩
    have hmuted : (Step.inUnit kind name (h.muted.run c i unit)).Fails (st, t) (f.error e)
        (st', t₁) := Step.fails_inUnit.2 ⟨e, fails_run hstart hfails, by rw [herror]⟩
    refine .failed (hF e st' hx) hplain hmuted ?_
    rw [herror, hreport, ← UnitHooks.failure_eq]
    exact Step.fails_inUnit.2 ⟨_, fails_run hstart hfails, rfl⟩
  · have hx : x.Yields st o st' := hout
    have hyields : (unit c i).Yields (st, t₁) o (st', t₁) := hunit ▸ hx.keeping t₁
    obtain ⟨t', hsuccess⟩ := hh.success o st' t₁
    have hmuted : (h.muted.run c i unit).Yields (st, t) o (st', t') :=
      yields_run hstart hyields hsuccess
    exact .done (Step.yields_inUnit.2 hx) (Step.yields_inUnit.2 hmuted)
      (Step.yields_inUnit.2 (yields_run hstart hyields hsuccess))

/-! ## The units of a compilation -/

/-- A traversal of the parts of a kind, with transparent hooks around each. -/
theorem UnitHooks.Transparent.shadows_units {h : UnitHooks (σ × τ) C I O} (hh : h.Transparent)
    (c : C) (kind : Kind) (stage : String → I → Stage) {parts : List (String × I)}
    {unit : I → Step σ O} (g : C → I → Except CompileError O) (f : String → O → β)
    (hunit : ∀ i, unit i = Step.ofExcept (g c i))
    (herror : ∀ name i, (Fault.stage (stage name i)).error = .inUnit kind name)
    (hreport : ∀ name i, (Fault.stage (stage name i)).report hooks s = tell h.onFailure c i)
    {st : σ}
    (hF : ∀ x ∈ parts, ∀ cause, failure? (g c x.2) = some cause →
      F (.stage (stage x.1 x.2)) cause st)
    (t : τ) : Shadows F hooks s
      (parts.mapM fun x : String × I => do
        let o ← Step.inUnit kind x.1 (unit x.2)
        return f x.1 o)
      (parts.mapM fun x : String × I => do
        let o ← Step.inUnit kind x.1 (h.muted.run c x.2 fun c i => Step.ofExcept (g c i))
        return f x.1 o)
      (parts.mapM fun x : String × I => do
        let o ← Step.inUnit kind x.1 (h.run c x.2 fun c i => Step.ofExcept (g c i))
        return f x.1 o) st t := by
  refine Shadows.mapM (fun x hx t => ?_) (fun x b st' hyields => ?_) t
  · refine Shadows.bind (hh.shadows ?_ (herror x.1 x.2) (hreport x.1 x.2) ?_ t)
      fun o st' t' _ => .pure (f x.1 o) st' t'
    · rw [hunit]
      rfl
    · intro cause st' hfails
      rw [hunit] at hfails
      obtain ⟨hcause, rfl⟩ := Step.fails_ofExcept.1 hfails
      exact hF x hx cause (failure?_eq_some.2 hcause)
  · obtain ⟨o, mid, hunits, hpure⟩ := Step.yields_bind.1 hyields
    rw [hunit, Step.yields_inUnit] at hunits
    exact (Step.yields_ofExcept.1 hunits).2.trans (Step.yields_pure.1 hpure).2

namespace Compiler

variable {r : Registry} {w : Writers σ} {st : σ}

theorem ready_beside (s : Settings) (hooks : Hooks (σ × τ)) (w : Writers σ) :
    (ofSettings s hooks).ready (w.beside τ) = (ofSettings s : Compiler σ).ready w := by
  simp [ready, ofSettings, Writers.beside]

/-- The checks before a compilation have no hooks around them. -/
theorem shadows_ready
    (hF : ∀ x ∈ stages r, ∀ cause, x.cause? s r w = some cause → F (.stage x) cause st) (t : τ) :
    Shadows F hooks s (Step.ofExcept ((ofSettings s : Compiler σ).ready w))
      (Step.ofExcept ((ofSettings s hooks.muted).ready (w.beside τ)))
      (Step.ofExcept ((ofSettings s hooks).ready (w.beside τ))) st t := by
  rw [ready_beside, ready_beside]
  refine Shadows.ofExcept t fun e he => ?_
  have hfirst := failure?_ready s r w
  rw [he, failure?_error, eq_comm, List.findSome?_eq_some_iff] at hfirst
  obtain ⟨before, x, after, hchecks, hx, -⟩ := hfirst
  obtain ⟨cause, hcause, rfl⟩ := Option.map_eq_some_iff.1 hx
  have hmem : x = .settings ∨ x = .structureWriter := by
    have hmem : x ∈ [Stage.settings, .structureWriter] := by simp [hchecks]
    simpa using hmem
  refine ⟨.stage x, cause, hF x ?_ cause hcause, rfl, ?_⟩
  · rcases hmem with rfl | rfl <;> simp [stages]
  · rcases hmem with rfl | rfl <;> rfl

/-- All units, with transparent hooks around each. -/
theorem shadows_parts (hh : hooks.Transparent)
    (hF : ∀ x ∈ stages r, ∀ cause, x.cause? s r w = some cause → F (.stage x) cause st) (t : τ) :
    Shadows F hooks s ((ofSettings s : Compiler σ).parts r) ((ofSettings s hooks.muted).parts r)
      ((ofSettings s hooks).parts r) st t := by
  have : Nonempty σ := ⟨st⟩
  refine Shadows.bind ?_ fun enumerations st₁ t₁ h₁ => ?_
  · exact hh.enumeration.shadows_units s.enumerations .enumeration .enumeration compileEnumeration
      (fun name (t : LookupTable) => Product.mk t.table (.enumeration name t.seed))
      (enumerationUnit_ofSettings s) (fun _ _ => rfl) (fun _ _ => rfl)
      (fun x hx cause => hF (.enumeration x.1 x.2) (by simp [stages, hx]) cause) t
  obtain ⟨rfl, -⟩ := yields_enumerationProducts h₁
  refine Shadows.bind ?_ fun models st₂ t₂ h₂ => ?_
  · refine Shadows.bind ?_ fun products st₂ t₂ _ => .pure products.flatten st₂ t₂
    exact hh.model.shadows_units s.models .model .model (fun c m => compileModel c r m)
      (fun name (ts : ModelTables) => ts.all.map fun t => Product.mk t (.model name))
      (modelUnit_ofSettings s r) (fun _ _ => rfl) (fun _ _ => rfl)
      (fun x hx cause => hF (.model x.1 x.2) (by simp [stages, hx]) cause) t₁
  obtain ⟨rfl, -⟩ := yields_modelProducts h₂
  refine Shadows.bind ?_ fun structures st₃ t₃ h₃ => ?_
  · refine Shadows.bind (hh.structures.shadows (f := .stage .structures) ?_ rfl rfl ?_ t₂)
      fun t? st₃ t₃ _ => ?_
    · rw [structureTable_ofSettings]
      rfl
    · rw [structureTable_ofSettings]
      intro cause st' hfails
      obtain ⟨hcause, rfl⟩ := Step.fails_ofExcept.1 hfails
      exact hF .structures (by simp [stages]) cause (failure?_eq_some.2 hcause)
    · cases t? with
      | none => exact .pure [] st₃ t₃
      | some table => exact .pure [Product.mk table .structures] st₃ t₃
  obtain ⟨rfl, -⟩ := yields_structureProducts h₃
  refine Shadows.bind ?_ fun views st₄ t₄ _ => .pure _ st₄ t₄
  exact hh.entity.shadows_units s.linked.entities .entity .entity
    (fun c e => compileEntity c r e) Prod.mk (entityUnit_ofSettings s r) (fun _ _ => rfl)
    (fun _ _ => rfl)
    (fun x hx cause => hF (.entity x.1 x.2) (by simp [stages, hx]) cause) t₃

/-! ## Pieces -/

/-- A piece that has its writer, with transparent hooks around the writing. -/
theorem shadows_writePiece (hh : hooks.Transparent) {p : Piece} {writer : Writer σ}
    (hwriter : w.forKind p.entry.kind = .ok writer)
    (hF : ∀ cause st', (p.write w).Fails st (.inUnit p.entry.kind p.entry.source cause) st' →
      F (.piece p) cause st') (t : τ) :
    Shadows F hooks s (p.write w) ((ofSettings s hooks.muted).writePiece (w.beside τ) p)
      ((ofSettings s hooks).writePiece (w.beside τ) p) st t := by
  cases p with
  | view name v =>
    refine hh.writeView.shadows (f := .piece (.view name v)) (Step.ofWrite_keeping _) rfl rfl ?_ t
    exact fun cause st' hfails => hF cause st' (Step.fails_inUnit.2 ⟨cause, hfails, rfl⟩)
  | table p =>
    -- the writer of the kind is there, so only the writing itself can fail
    have hwriter : w.forKind p.source.kind = .ok writer := hwriter
    have hbeside : (w.beside τ).forKind p.source.kind = .ok (writer.beside τ) := by
      rw [Writers.forKind_beside, hwriter]
      rfl
    have hfails (cause : CompileError) (st' : σ) : (Piece.write w (.table p)).Fails st
        (.inUnit p.source.kind p.source.name cause) st' → F (.piece (.table p)) cause st' :=
      hF cause st'
    simp only [Piece.write, writePiece, hwriter, hbeside, Step.ofExcept_ok, pure_bind] at hfails ⊢
    refine hh.writeTable.shadows (f := .piece (.table p)) ?_ rfl rfl ?_ t
    · simp only [Step.keeping_bind, Writer.beside, Step.ofWrite_keeping]
      cases p.source with
      | model name => rfl
      | structures => rfl
      | enumeration name seed =>
        simp only [Source.seed?, Step.keeping_bind]
        rfl
    · exact fun cause st' hx => hfails cause st' (Step.fails_inUnit.2 ⟨cause, hx, rfl⟩)

/-- Writing pieces after those that have been written, with transparent hooks around each. -/
theorem shadows_writePieces (hh : hooks.Transparent) {u : Units} {tables : List Product}
    (hu : u.Of (ofSettings s : Compiler σ) r) (hperm : tables.Perm u.products)
    (horder : inOrder (u.products.map (·.table)) = .ok (tables.map (·.table)))
    (hwriters : ∀ p ∈ u.pieces tables, ∃ writer, w.forKind p.entry.kind = .ok writer)
    {before after : List Piece} (hpieces : u.pieces tables = before ++ after) {schema : Schema}
    {mid : σ} (hbefore : (writeAll w before {}).Yields st schema mid) (t : τ) :
    Shadows (Fault.Occurs s r w st) hooks s (writeAll w after schema)
      ((ofSettings s hooks.muted).writePieces (w.beside τ) after schema)
      ((ofSettings s hooks).writePieces (w.beside τ) after schema) mid t := by
  induction after generalizing before schema mid t with
  | nil => exact .pure schema mid t
  | cons p after ih =>
    obtain ⟨writer, hwriter⟩ := hwriters p (by simp [hpieces])
    refine Shadows.bind (shadows_writePiece hh hwriter (fun cause st' hfails => ?_) t)
      fun bytes mid' t' hwritten => ?_
    · exact .piece hu hperm horder hpieces hbefore hfails
    · have hnext : u.pieces tables = (before ++ [p]) ++ after := by simp [hpieces]
      refine ih hnext ?_ t'
      rw [writeAll_append]
      refine Step.yields_bind.2 ⟨schema, mid, hbefore, ?_⟩
      exact Step.yields_bind.2 ⟨bytes, mid', hwritten, rfl⟩

/-! ## Whole compilations -/

/-- Whole compilations, with transparent hooks around each unit and each writing. -/
theorem shadows_compileAll (hh : hooks.Transparent) (s : Settings) (r : Registry) (w : Writers σ)
    (st : σ) (t : τ) :
    Shadows (Fault.Occurs s r w st) hooks s ((ofSettings s).compileAll r w)
      ((ofSettings s hooks.muted).compileAll r (w.beside τ))
      ((ofSettings s hooks).compileAll r (w.beside τ)) st t := by
  have : Nonempty σ := ⟨st⟩
  have hstage : ∀ x ∈ stages r, ∀ cause, x.cause? s r w = some cause →
      Fault.Occurs s r w st (.stage x) cause st := fun x hx cause => .stage hx
  rw [compileAll_eq_parts, compileAll_eq_parts, compileAll_eq_parts]
  refine Shadows.bind (shadows_ready hstage t) fun _ st₁ t₁ hchecked => ?_
  obtain ⟨hready, rfl⟩ := Step.yields_ofExcept.1 hchecked
  refine Shadows.bind (shadows_parts hh hstage t₁) fun x st₂ t₂ hparts => ?_
  obtain ⟨rfl, u, hu, rfl⟩ := yields_parts hparts
  refine Shadows.bind (Shadows.ofExcept t₂ fun e he => ?_) fun ordered st₃ t₃ hordered => ?_
  · obtain ⟨o, ho, rfl⟩ := mapError_eq_error.1 he
    exact ⟨.order, .order o, .order hu ho, rfl, rfl⟩
  obtain ⟨hmapped, rfl⟩ := Step.yields_ofExcept.1 hordered
  have horder := mapError_eq_ok.1 hmapped
  obtain ⟨tables, hperm, rfl, hkeys⟩ := Units.exists_tables horder
  -- a missing writer has been found before, so no piece lacks its writer
  have hwriter : Stage.structureWriter.cause? s r w = none := by
    have hchecks := failure?_ready s r w
    rw [hready, failure?_ok, eq_comm, List.findSome?_eq_none_iff] at hchecks
    exact Option.map_eq_none_iff.1 (hchecks .structureWriter (by simp))
  rw [hu.writeAll_eq hperm hkeys, hu.writePieces_eq hperm hkeys, hu.writePieces_eq hperm hkeys]
  exact shadows_writePieces hh hu hperm horder (hu.exists_writer hwriter hperm)
    (List.nil_append _).symm rfl t₃

end Compiler

/-- Hooks that change nothing leave a compilation as it is, whatever the failure hooks are: it
succeeds when the one without hooks does, with the same schema. Where that fails, a fault has
occurred, and up to the fault the compilation goes as without failure hooks. Then the failure hook
of the fault is called, and its answer takes the place of the cause. -/
theorem compileAll_transparent (s : Settings) (r : Registry) (w : Writers σ)
    {hooks : Hooks (σ × τ)} (hh : hooks.Transparent) (st : σ) (t : τ) :
    (∀ schema st', ((Compiler.ofSettings s).compileAll r w).Yields st schema st' ↔
      ∃ t', ((Compiler.ofSettings s hooks).compileAll r (w.beside τ)).Yields (st, t) schema
        (st', t'))
    ∧ ∀ e st', ((Compiler.ofSettings s).compileAll r w).Fails st e st' →
      ∃ (fault : Fault) (cause cause' : CompileError) (t' : τ) (last : σ × τ),
        fault.Occurs s r w st cause st' ∧ e = fault.error cause
        ∧ ((Compiler.ofSettings s hooks.muted).compileAll r (w.beside τ)).Fails (st, t) e (st', t')
        ∧ fault.report hooks s cause (st', t') = (cause', last)
        ∧ ((Compiler.ofSettings s hooks).compileAll r (w.beside τ)).Fails (st, t)
          (fault.error cause') last := by
  cases Compiler.shadows_compileAll hh s r w st t with
  | done yields muted_yields full_yields =>
    refine ⟨fun schema st' => ⟨fun h => ?_, fun ⟨t', h⟩ => ?_⟩, fun e st' h => ?_⟩
    · cases yields.symm.trans h
      exact ⟨_, full_yields⟩
    · cases full_yields.symm.trans h
      exact yields
    · cases yields.symm.trans h
  | failed occurs fails muted_fails full_fails =>
    refine ⟨fun schema st' => ⟨fun h => ?_, fun ⟨t', h⟩ => ?_⟩, fun e st' h => ?_⟩
    · cases fails.symm.trans h
    · cases full_fails.symm.trans h
    · cases fails.symm.trans h
      exact ⟨_, _, _, _, _, occurs, rfl, muted_fails, rfl, full_fails⟩

namespace Sample

/-- Note a word. -/
def note (word : String) (a : α) : StateM (Unit × List String) α :=
  fun st => (a, (st.1, st.2 ++ [word]))

/-- Hooks that note that they are called; the failure hook puts another error in place. -/
def watch : UnitHooks (Unit × List String) C I O where
  onStart := some fun c i => ExceptT.mk (note "start" (.ok (c, i)))
  onSuccess := some fun o => ExceptT.mk (note "success" (.ok o))
  onFailure := some fun _ _ _ => note "failure" (.hook "noted")

/-- The same hooks around every kind of unit. -/
def watching : Hooks (Unit × List String) := ⟨watch, watch, watch, watch, watch, watch⟩

theorem transparent_watch : (watch : UnitHooks _ C I O).Transparent where
  onStart hook hhook c i st := by
    cases hhook
    exact ⟨st.2 ++ ["start"], rfl⟩
  onSuccess hook hhook o st := by
    cases hhook
    exact ⟨st.2 ++ ["success"], rfl⟩

end Sample

/-- With hooks that note their calls, colors and tags compile to the same schema. Where the rows of
colors are refused, two units and the structures have been compiled, the failure hook is called
last, and the error that it puts in place stands inside the enumeration. -/
theorem compileAll_transparent_watched :
    Sample.watching.Transparent
    ∧ (∃ schema log, ((Compiler.ofSettings {}).compileAll Sample.colored {}).Yields () schema ()
      ∧ ((Compiler.ofSettings {} Sample.watching).compileAll Sample.colored
        (Writers.beside _ {})).Yields ((), []) schema ((), log))
    ∧ ∃ (fault : Fault) (cause cause' : CompileError) (log : List String),
      fault.Occurs {} Sample.colored Sample.withoutRows () cause ()
      ∧ fault.error cause = .inUnit .enumeration "Color" (.write (.format "rows" "refused"))
      ∧ ((Compiler.ofSettings {} Sample.watching.muted).compileAll Sample.colored
        (Sample.withoutRows.beside _)).Fails ((), []) (fault.error cause) ((), log)
      ∧ fault.report Sample.watching {} cause ((), log) = (cause', ((),
        ["start", "success", "start", "success", "start", "success", "start", "failure"]))
      ∧ fault.error cause' = .inUnit .enumeration "Color" (.hook "noted") := by
  have hh : Sample.watching.Transparent := ⟨Sample.transparent_watch, Sample.transparent_watch,
    Sample.transparent_watch, Sample.transparent_watch, Sample.transparent_watch,
    Sample.transparent_watch⟩
  refine ⟨hh, ?_, ?_⟩
  · have hok : (((Compiler.ofSettings {}).compileAll Sample.colored {}).outcome ()).1.isOk
        = true := by
      decide +kernel
    obtain ⟨schema, hschema⟩ := Step.exists_yields_of_isOk hok
    obtain ⟨log, hlog⟩ :=
      ((compileAll_transparent {} Sample.colored {} hh () []).1 schema ()).1 hschema
    exact ⟨schema, log, hschema, hlog⟩
  · have hplain : failure? (((Compiler.ofSettings {}).compileAll Sample.colored
        Sample.withoutRows).outcome ()).1
          = some (.inUnit .enumeration "Color" (.write (.format "rows" "refused"))) := by
      decide +kernel
    have hfull : failure? (((Compiler.ofSettings {} Sample.watching).compileAll Sample.colored
          (Sample.withoutRows.beside _)).outcome ((), [])).1
          = some (.inUnit .enumeration "Color" (.hook "noted"))
        ∧ (((Compiler.ofSettings {} Sample.watching).compileAll Sample.colored
          (Sample.withoutRows.beside _)).outcome ((), [])).2 = ((),
            ["start", "success", "start", "success", "start", "success", "start", "failure"]) := by
      decide +kernel
    obtain ⟨fault, cause, cause', log, last, hoccurs, herror, hmuted, hreport, hfails⟩ :=
      (compileAll_transparent {} Sample.colored Sample.withoutRows hh () []).2 _ ()
        (Prod.ext (failure?_eq_some.1 hplain) (Subsingleton.elim _ _))
    obtain ⟨hcause, hlast⟩ := Prod.mk.inj
      (hfails.symm.trans (Prod.ext (failure?_eq_some.1 hfull.1) hfull.2))
    refine ⟨fault, cause, cause', log, hoccurs, herror.symm, herror ▸ hmuted, ?_,
      Except.error.inj hcause⟩
    rw [hreport, hlast]

end Schemata.Emission
