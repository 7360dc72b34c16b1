import Schemata.Proofs.EntityView

/-!
# Units in a larger registry

A unit asks the registry for the models that it needs and for nothing else. So what compiles with
the models of one registry compiles to the same in every registry that has these models too.

## Main definitions

* `Registry.ModelsIn`: every model of a registry is one of another.

## Main statements

* `compileModel_mono`, `compileEntity_mono`: units in a larger registry.
-/

namespace Schemata.Spec

/-- Every model of a registry is one of another, under the same name. -/
def Registry.ModelsIn (r r' : Registry) : Prop :=
  ∀ name m, r.models.get? name = some m → r'.models.get? name = some m

/-- A model of a new name leaves the others as they are. -/
theorem Registry.modelsIn_insertModel {r : Registry} {m : Model}
    (h : r.models.get? m.name = none) : r.ModelsIn (r.insertModel m) := by
  intro name m' hm'
  have hne : name ≠ m.name := by
    rintro rfl
    rw [h] at hm'
    cases hm'
  rw [insertModel, NameMap.get?_insert, if_neg hne, hm']

end Schemata.Spec

namespace Schemata.Lowering

open Spec Sql Settings

variable {r r' : Registry}

theorem resolveTarget_mono (hr : r.ModelsIn r') {m target : Model} {name : String}
    {relation : Relation} (h : resolveTarget r m name relation = .ok target) :
    resolveTarget r' m name relation = .ok target :=
  resolveTarget_ok.2 (hr _ _ (resolveTarget_ok.1 h))

/-! ## Models -/

theorem addRelation_mono (hr : r.ModelsIn r') {s : ModelSettings} {m : Model}
    {tables tables' : ModelTables} {entry : String × Relation}
    (h : addRelation s r m tables entry = .ok tables') :
    addRelation s r' m tables entry = .ok tables' := by
  rw [addRelation, bind_eq_ok] at h ⊢
  obtain ⟨target, htarget, h⟩ := h
  exact ⟨target, resolveTarget_mono hr htarget, h⟩

/-- A model compiles to the same tables in a larger registry. -/
theorem compileModel_mono (hr : r.ModelsIn r') {s : ModelSettings} {m : Model} {ts : ModelTables}
    (h : compileModel s r m = .ok ts) : compileModel s r' m = .ok ts := by
  simp only [compileModel, bind_eq_ok] at h ⊢
  obtain ⟨_, hcheck, _, hschema, table, hfields, h⟩ := h
  exact ⟨_, hcheck, _, hschema, table, hfields,
    foldlM_mono (fun _ _ _ hstep => addRelation_mono hr hstep) h⟩

/-! ## Entities -/

theorem Walk.hop_mono (hr : r.ModelsIn r') {schema : String} {e : Entity}
    {field rootTable name : String} {w w' : Walk}
    (h : Walk.hop schema r e field rootTable w name = .ok w') :
    Walk.hop schema r' e field rootTable w name = .ok w' := by
  obtain ⟨relation, target, asName, joins, hrelation, hone, htarget, h⟩ := Walk.hop_eq_ok.1 h
  exact Walk.hop_eq_ok.2
    ⟨relation, target, asName, joins, hrelation, hone, hr _ _ htarget, h⟩

theorem addPath_mono (hr : r.ModelsIn r') {schema rootName : String} {e : Entity} {root : Model}
    {d d' : Draft} {path : FieldPath} (h : addPath schema r e root rootName d path = .ok d') :
    addPath schema r' e root rootName d path = .ok d' := by
  obtain ⟨hroot, w, hwalk, h⟩ := addPath_eq_ok.1 h
  exact addPath_eq_ok.2
    ⟨hroot, w, foldlM_mono (fun _ _ _ hstep => Walk.hop_mono hr hstep) hwalk, h⟩

/-- An entity compiles to the same view in a larger registry. -/
theorem compileEntity_mono (hr : r.ModelsIn r') {s : EntitySettings} {e : Entity} {v : View}
    (h : compileEntity s r e = .ok v) : compileEntity s r' e = .ok v := by
  obtain ⟨hname, hfields, hschema, hmodels, paths, root, draft, hpaths, hroot, hdraft, h⟩ :=
    compileEntity_eq_ok.1 h
  exact compileEntity_eq_ok.2 ⟨hname, hfields, hschema, hmodels, paths, root, draft, hpaths,
    hr _ _ hroot, foldlM_mono (fun _ _ _ hstep => addPath_mono hr hstep) hdraft, h⟩

end Schemata.Lowering
