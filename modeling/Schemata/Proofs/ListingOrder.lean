import Schemata.Proofs.Failure
import Schemata.Proofs.NameMap

/-!
# The order of listings

A specification keeps what it declares in maps, inside its parts and around them, and a map lists
its entries in no particular order. Parts are alike if they differ in such orders at most. Alike
parts compile to the same: whatever is gone through is sorted first, and whatever is looked up is
found wherever it is listed. So the first field, entry or path that is wrong is the same one too.

A hook is given parts with their listings. It is extensional if it makes alike parts of alike parts
and cannot tell them apart otherwise.

## Main definitions

* `Model.Alike`, `Enumeration.Alike`, `Entity.Alike`, `Registry.Alike`.
* `Hooks.Extensional`: hooks that do not depend on listings.

## Main statements

* `compileModel_alike`, `compileEnumeration_alike`, `compileEntity_alike`: the compilers of parts.
* `Compiler.compileAll_alike`: whole compilations.
-/

namespace Schemata.Spec

/-! ## Alike parts -/

/-- The models differ in the order of their listings at most. -/
structure Model.Alike (m m' : Model) : Prop where
  name_eq : m.name = m'.name
  fields : NameMap.Agree (· = ·) m.fields m'.fields
  identifiers : NameMap.Agree (· = ·) m.identifiers m'.identifiers
  related : NameMap.Agree (· = ·) m.related m'.related

/-- The enumerations differ in the order of their listings at most. -/
structure Enumeration.Alike (e e' : Enumeration) : Prop where
  name_eq : e.name = e'.name
  type_eq : e.type = e'.type
  entries : NameMap.Agree (· = ·) e.entries e'.entries

/-- The entities differ in the order of their listings at most. -/
structure Entity.Alike (e e' : Entity) : Prop where
  name_eq : e.name = e'.name
  fields : NameMap.Agree (· = ·) e.fields e'.fields

/-- The structures differ in the order of their listings at most. -/
structure Structure.Alike (s s' : Structure) : Prop where
  name_eq : s.name = s'.name
  fields : NameMap.Agree (· = ·) s.fields s'.fields

/-- The registries have alike parts under the same names. -/
structure Registry.Alike (r r' : Registry) : Prop where
  models : NameMap.Agree Model.Alike r.models r'.models
  enumerations : NameMap.Agree Enumeration.Alike r.enumerations r'.enumerations
  entities : NameMap.Agree Entity.Alike r.entities r'.entities
  structures : NameMap.Agree Structure.Alike r.structures r'.structures

end Schemata.Spec

namespace Schemata.Lowering

open Spec Sql Settings

variable {α β γ δ : Type}

/-! ## Results that match -/

/-- Both fail with the same error, or both succeed with related results. -/
inductive Matched (R : α → β → Prop) : Except CompileError α → Except CompileError β → Prop
  | ok {a : α} {b : β} (h : R a b) : Matched R (.ok a) (.ok b)
  | error (e : CompileError) : Matched R (.error e) (.error e)

namespace Matched

variable {R : α → β → Prop} {x : Except CompileError α} {y : Except CompileError β}

theorem bind {S : γ → δ → Prop} {f : α → Except CompileError γ} {g : β → Except CompileError δ}
    (h : Matched R x y) (hfg : ∀ a b, R a b → Matched S (f a) (g b)) :
    Matched S (x >>= f) (y >>= g) := by
  cases h with
  | ok hab => exact hfg _ _ hab
  | error e => exact .error e

theorem bind_eq {f : α → Except CompileError γ} {g : β → Except CompileError γ}
    (h : Matched R x y) (hfg : ∀ a b, R a b → f a = g b) : x >>= f = y >>= g := by
  cases h with
  | ok hab => exact hfg _ _ hab
  | error e => rfl

theorem bind_self {S : γ → δ → Prop} (x : Except CompileError α)
    {f : α → Except CompileError γ} {g : α → Except CompileError δ}
    (hfg : ∀ a, Matched S (f a) (g a)) : Matched S (x >>= f) (x >>= g) := by
  cases x with
  | ok a => exact hfg a
  | error e => exact .error e

/-- Steps that keep results related keep them related in a run. -/
theorem foldlM {f : α → γ → Except CompileError α} {g : β → γ → Except CompileError β}
    (hstep : ∀ a b c, R a b → Matched R (f a c) (g b c)) (l : List γ) {a : α} {b : β}
    (h : R a b) : Matched R (l.foldlM f a) (l.foldlM g b) := by
  induction l generalizing a b with
  | nil => exact .ok h
  | cons c rest ih =>
    rw [List.foldlM_cons, List.foldlM_cons]
    exact (hstep a b c h).bind fun _ _ => ih

end Matched

/-! ## Models -/

section Model

variable {m m' target target' : Model} (h : m.Alike m')

include h

theorem primary?_alike : m.primary? = m'.primary? := NameMap.agree_eq.1 h.identifiers primary

theorem checkModel_alike : checkModel m = checkModel m' := by
  have hunknown (fields : List String) : unknownField? m fields = unknownField? m' fields := by
    simp only [unknownField?, h.fields.contains_eq]
  simp only [checkModel, h.name_eq, h.fields.isEmpty_eq, h.identifiers.isEmpty_eq,
    h.identifiers.entries_eq, primary?_alike h, hunknown]

theorem singleKey_alike : singleKey m = singleKey m' := by
  simp only [singleKey, h.name_eq, primary?_alike h, NameMap.agree_eq.1 h.fields]

theorem addField_alike (s : ModelSettings) : addField s m = addField s m' := by
  funext t entry
  simp only [addField, fieldColumn, h.name_eq, primary?_alike h]

theorem uniqueConstraints_alike : uniqueConstraints m = uniqueConstraints m' := by
  funext table
  simp only [uniqueConstraints, h.identifiers.entries_eq]

theorem addReference_alike (s : ModelSettings) (t : Table) (relation : Relation) :
    addReference s t relation m = addReference s t relation m' := by
  funext key type
  simp only [addReference, h.name_eq]

theorem junctionTable_alike (ht : target.Alike target') (s : ModelSettings)
    (relation : Relation) :
    junctionTable s m relation target = junctionTable s m' relation target' := by
  funext key type
  simp only [junctionTable, h.name_eq, ht.name_eq, singleKey_alike h]

/-- Relations lead to alike models, or to the same error. -/
theorem resolveTarget_alike {r r' : Registry} (hr : r.Alike r') (name : String)
    (relation : Relation) :
    Matched Model.Alike (resolveTarget r m name relation) (resolveTarget r' m' name relation) := by
  unfold resolveTarget
  have htarget := hr.models relation.resolved
  generalize r.models.get? relation.resolved = a, r'.models.get? relation.resolved = b at htarget
  cases htarget with
  | none =>
    rw [h.name_eq]
    exact .error _
  | some ht => exact .ok ht

theorem addRelation_alike {r r' : Registry} (hr : r.Alike r') (s : ModelSettings) :
    addRelation s r m = addRelation s r' m' := by
  funext tables entry
  refine (resolveTarget_alike h hr entry.1 entry.2).bind_eq fun target target' ht => ?_
  simp only [singleKey_alike ht, ht.name_eq, addReference_alike ht, junctionTable_alike h ht]

/-- Alike models of alike registries have the same tables, or fail in the same way. -/
theorem compileModel_alike {r r' : Registry} (hr : r.Alike r') (s : ModelSettings) :
    compileModel s r m = compileModel s r' m' := by
  simp only [compileModel, checkModel_alike h, h.name_eq, h.fields.entries_eq,
    h.related.entries_eq, addField_alike h, uniqueConstraints_alike h, addRelation_alike h hr]

end Model

/-! ## Enumerations -/

/-- Alike enumerations have the same table and rows, or the same entry is reported. -/
theorem compileEnumeration_alike {e e' : Enumeration} (h : e.Alike e') (s : EnumerationSettings) :
    compileEnumeration s e = compileEnumeration s e' := by
  have hmistyped : mistyped? e = mistyped? e' := by
    simp only [mistyped?, h.entries.entries_eq, h.type_eq]
  have hseed (schema name : String) : entrySeed schema name e = entrySeed schema name e' := by
    simp only [entrySeed, h.entries.entries_eq]
  simp only [compileEnumeration, checkEnumeration, h.name_eq, h.type_eq, h.entries.isEmpty_eq,
    hmistyped, hseed]

/-! ## Entities -/

/-- The walks have come to alike models in the same way. -/
structure Walk.Alike (w w' : Walk) : Prop where
  model : w.model.Alike w'.model
  asName_eq : w.asName = w'.asName
  joins_eq : w.joins = w'.joins

theorem addJoin_alike {w w' : Walk} (h : w.Alike w') {target target' : Model}
    (ht : target.Alike target') (schema table asName : String) :
    addJoin schema w target table asName = addJoin schema w' target' table asName := by
  simp only [addJoin, joinFor, h.joins_eq, h.asName_eq, singleKey_alike h.model,
    singleKey_alike ht]

/-- A relation leads alike walks to alike models. -/
theorem Walk.hop_alike {r r' : Registry} (hr : r.Alike r') {e e' : Entity} (he : e.Alike e')
    {w w' : Walk} (h : w.Alike w') (schema field rootTable hop : String) :
    Matched Walk.Alike (w.hop schema r e field rootTable hop)
      (w'.hop schema r' e' field rootTable hop) := by
  unfold Walk.hop
  rw [he.name_eq, h.model.name_eq, NameMap.agree_eq.1 h.model.related hop]
  cases w'.model.related.get? hop with
  | none => exact .error _
  | some relation =>
    refine .bind_self (.ok relation) fun relation => ?_
    dsimp only
    split
    · exact .error _
    · refine (resolveTarget_alike h.model hr hop relation).bind fun target target' ht => ?_
      rw [ht.name_eq, addJoin_alike h ht]
      exact .bind_self _ fun joins => .ok ⟨ht, rfl, rfl⟩

theorem addPath_alike {r r' : Registry} (hr : r.Alike r') {e e' : Entity} (he : e.Alike e')
    {root root' : Model} (hroot : root.Alike root') (schema rootName : String) :
    addPath schema r e root rootName = addPath schema r' e' root' rootName := by
  funext d path
  have hstart : Walk.Alike ⟨root, Naming.tableName root.name, d.joins⟩
      ⟨root', Naming.tableName root'.name, d.joins⟩ :=
    ⟨hroot, congrArg Naming.tableName hroot.name_eq, rfl⟩
  have hwalk := Matched.foldlM (fun w w' hop h => Walk.hop_alike hr he h schema path.field
    (Naming.tableName root.name) hop) path.hops hstart
  unfold addPath
  simp only [he.name_eq]
  split
  · rw [throw_bind, throw_bind]
  · rw [hroot.name_eq] at hwalk ⊢
    refine hwalk.bind_eq fun w w' hw => ?_
    simp only [hw.model.fields.contains_eq, hw.model.name_eq, hw.asName_eq, hw.joins_eq]

/-- Alike entities of alike registries have the same view, or fail in the same way. -/
theorem compileEntity_alike {r r' : Registry} (hr : r.Alike r') {e e' : Entity} (he : e.Alike e')
    (s : EntitySettings) : compileEntity s r e = compileEntity s r' e' := by
  have hparse : parsePath e = parsePath e' := by
    funext name field
    simp only [parsePath, he.name_eq]
  have hroot (rootName : String) : Matched Model.Alike
      ((r.model rootName).mapError CompileError.notFound)
      ((r'.model rootName).mapError CompileError.notFound) := by
    unfold Registry.model
    have hmodel := hr.models rootName
    generalize r.models.get? rootName = a, r'.models.get? rootName = b at hmodel
    cases hmodel with
    | none => exact .error _
    | some h => exact .ok h
  unfold compileEntity
  simp only [he.name_eq, he.fields.isEmpty_eq, he.fields.entries_eq, hparse]
  split
  · rw [throw_bind, throw_bind]
  split
  · rw [throw_bind, throw_bind]
  refine bind_congr fun _ => bind_congr fun _ => bind_congr fun paths => ?_
  refine (hroot _).bind_eq fun root root' h => ?_
  simp only [addPath_alike hr he h, h.name_eq]

end Schemata.Lowering

namespace Schemata.Emission

open Lowering Spec Sql Settings

variable {σ C I O : Type}

/-! ## Hooks and traversals -/

/-- The hooks do not depend on more of an input than a relation keeps. -/
structure UnitHooks.Extensional (R : I → I → Prop) (h : UnitHooks σ C I O) : Prop where
  /-- What the start hook makes of related inputs is related, and it leaves the same state. -/
  start : ∀ hook ∈ h.onStart, ∀ c i i', R i i' → ∀ st,
    Matched (fun x y => x.1 = y.1 ∧ R x.2 y.2)
        ((hook c i).outcome st).1 ((hook c i').outcome st).1
      ∧ ((hook c i).outcome st).2 = ((hook c i').outcome st).2
  /-- The failure hook cannot tell related inputs apart. -/
  failure : ∀ hook ∈ h.onFailure, ∀ c i i', R i i' → hook c i = hook c i'

/-- No hook depends on the order of listings. -/
structure Hooks.Extensional (h : Hooks σ) : Prop where
  model : h.model.Extensional Model.Alike
  enumeration : h.enumeration.Extensional Enumeration.Alike
  entity : h.entity.Extensional Entity.Alike

namespace UnitHooks

/-- Where there are no hooks, none depends on anything. -/
theorem extensional_none (R : I → I → Prop) : ({} : UnitHooks σ C I O).Extensional R where
  start := by simp
  failure := by simp

theorem Extensional.start_outcome {R : I → I → Prop} {h : UnitHooks σ C I O}
    (hext : h.Extensional R) (c : C) {i i' : I} (hi : R i i') (st : σ) :
    Matched (fun x y => x.1 = y.1 ∧ R x.2 y.2)
        ((h.start c i).outcome st).1 ((h.start c i').outcome st).1
      ∧ ((h.start c i).outcome st).2 = ((h.start c i').outcome st).2 := by
  unfold UnitHooks.start
  cases hstart : h.onStart with
  | none => exact ⟨.ok ⟨rfl, hi⟩, rfl⟩
  | some hook => exact hext.start hook hstart c i i' hi st

theorem Extensional.failure_eq {R : I → I → Prop} {h : UnitHooks σ C I O}
    (hext : h.Extensional R) (c : C) {i i' : I} (hi : R i i') : h.failure c i = h.failure c i' := by
  funext e
  unfold UnitHooks.failure
  cases hfailure : h.onFailure with
  | none => rfl
  | some hook => exact congrFun (hext.failure hook hfailure c i i' hi) e

/-- Extensional hooks around units that agree on related inputs do the same for them. -/
theorem Extensional.run_eq {R : I → I → Prop} {h : UnitHooks σ C I O} (hext : h.Extensional R)
    {unit unit' : C → I → Step σ O} (hunit : ∀ c i i', R i i' → unit c i = unit' c i') (c : C)
    {i i' : I} (hi : R i i') : h.run c i unit = h.run c i' unit' := by
  refine Step.ext fun st => ?_
  obtain ⟨hmatched, hstate⟩ := hext.start_outcome c hi st
  rw [outcome_run, outcome_run]
  rcases hx : (h.start c i).outcome st with ⟨x, mid⟩
  rcases hy : (h.start c i').outcome st with ⟨y, mid'⟩
  rw [hx, hy] at hmatched hstate
  subst hstate
  cases hmatched with
  | error e => simp only [hext.failure_eq c hi]
  | ok hxy =>
    obtain ⟨hc, hi⟩ := hxy
    simp only [← hc, hunit _ _ _ hi, hext.failure_eq _ hi]

end UnitHooks

/-! ## Whole compilations -/

/-- Lists whose members have the same steps are traversed alike. -/
theorem Step.mapM_congr {α β γ : Type} {R : α → β → Prop} {as : List α} {bs : List β}
    (h : List.Forall₂ R as bs) {f : α → Step σ γ} {g : β → Step σ γ}
    (hfg : ∀ a b, R a b → f a = g b) : as.mapM f = bs.mapM g := by
  induction h with
  | nil => rfl
  | cons hab _ ih => rw [List.mapM_cons, List.mapM_cons, hfg _ _ hab, ih]

/-- Maps that agree are traversed alike. -/
theorem mapM_entries_congr {α β γ : Type} {R : α → β → Prop} {m : NameMap α} {n : NameMap β}
    (h : NameMap.Agree R m n) {f : String × α → Step σ γ} {g : String × β → Step σ γ}
    (hfg : ∀ name a b, R a b → f (name, a) = g (name, b)) :
    m.entries.mapM f = n.entries.mapM g := by
  refine Step.mapM_congr h.forall₂_entries ?_
  rintro ⟨name, a⟩ ⟨_, b⟩ ⟨rfl, hab⟩
  exact hfg name a b hab

namespace Compiler

variable {c : Compiler σ} (hc : c.hooks.Extensional) {r r' : Registry} (hr : r.Alike r')

include hc hr

theorem enumerationProducts_alike : c.enumerationProducts r = c.enumerationProducts r' := by
  refine mapM_entries_congr hr.enumerations fun name e e' he => ?_
  have hunit : c.enumerationUnit e = c.enumerationUnit e' :=
    hc.enumeration.run_eq
      (fun s _ _ h => congrArg Step.ofExcept (compileEnumeration_alike h s)) _ he
  simp only [hunit]

theorem modelProducts_alike : c.modelProducts r = c.modelProducts r' := by
  refine congrArg (· >>= _) (mapM_entries_congr hr.models fun name m m' hm => ?_)
  have hunit : c.modelUnit r m = c.modelUnit r' m' :=
    hc.model.run_eq (fun s _ _ h => congrArg Step.ofExcept (compileModel_alike h hr s)) _ hm
  simp only [hunit]

theorem views_alike : c.views r = c.views r' := by
  refine mapM_entries_congr hr.entities fun name e e' he => ?_
  have hunit : c.entityUnit r e = c.entityUnit r' e' :=
    hc.entity.run_eq (fun s _ _ h => congrArg Step.ofExcept (compileEntity_alike hr h s)) _ he
  simp only [hunit]

/-- Alike registries compile to the same, whatever the writers do. -/
theorem compileAll_alike (w : Writers σ) : c.compileAll r w = c.compileAll r' w := by
  simp only [compileAll, enumerationProducts_alike hc hr, modelProducts_alike hc hr,
    views_alike hc hr]

end Compiler

end Schemata.Emission
