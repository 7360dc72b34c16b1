import Schemata.Proofs.Emission
import Schemata.Proofs.ListingOrder

/-!
# The order of declarations

A specification is written down part by part, and each part entry by entry. A registry holds what is
declared if it has those parts with those entries, in whatever order its maps list them. Rearranged
declarations are held by registries that are alike, so they compile to the same.

## Main definitions

* `Part`, `Registry.part?`: the parts of a registry, of every kind, by kind and name.
* `Declaration`, `Registry.Holds`: a part as it is written down, and registries with such parts.
* `Registry.declared`: the registry that is made by insertions, one after the other.
* `Rearranged`: the same declarations in another order, inside and outside.

## Main statements

* `Registry.holds_declared`: insertions make a registry that holds what is declared.
* `Registry.Holds.alike`: registries of rearranged declarations are alike.
* `compileAll_rearranged`: and they compile to the same.
-/

namespace Schemata.Spec

/-! ## Parts of a registry -/

/-- A part of a specification, of any kind. -/
inductive Part where
  | model (m : Model)
  | enumeration (e : Enumeration)
  | entity (e : Entity)
  | record (s : Structure)
  deriving DecidableEq

/-- The kind and the name of a part. -/
def Part.key : Part → Kind × String
  | model m => (.model, m.name)
  | enumeration e => (.enumeration, e.name)
  | entity e => (.entity, e.name)
  | record s => (.record, s.name)

/-- The parts are of one kind and differ in the order of their listings at most. -/
inductive Part.Alike : Part → Part → Prop
  | model {m m' : Model} (h : m.Alike m') : Alike (.model m) (.model m')
  | enumeration {e e' : Enumeration} (h : e.Alike e') : Alike (.enumeration e) (.enumeration e')
  | entity {e e' : Entity} (h : e.Alike e') : Alike (.entity e) (.entity e')
  | record {s s' : Structure} (h : s.Alike s') : Alike (.record s) (.record s')

namespace Registry

/-- The registry with a part under its own name. -/
def insert (r : Registry) : Part → Registry
  | .model m => r.insertModel m
  | .enumeration e => r.insertEnumeration e
  | .entity e => r.insertEntity e
  | .record s => r.insertStructure s

/-- The part of a kind and a name. -/
def part? (r : Registry) : Kind × String → Option Part
  | (.model, name) => (r.models.get? name).map .model
  | (.enumeration, name) => (r.enumerations.get? name).map .enumeration
  | (.entity, name) => (r.entities.get? name).map .entity
  | (.record, name) => (r.structures.get? name).map .record

/-- An insertion changes the part of its own kind and name only. -/
theorem part?_insert (r : Registry) (p : Part) (key : Kind × String) :
    (r.insert p).part? key = if key = p.key then some p else r.part? key := by
  obtain ⟨kind, name⟩ := key
  -- another kind is kept in another map; in the map of the kind the name decides
  cases p <;> cases kind <;>
    simp only [insert, part?, Part.key, insertModel, insertEnumeration, insertEntity,
      insertStructure, NameMap.get?_insert, Prod.mk.injEq, reduceCtorEq, false_and, true_and,
      if_false] <;>
    split <;> rfl

/-- Registries with alike parts are alike. -/
theorem alike_of_part? {r r' : Registry}
    (h : ∀ key, Option.Rel Part.Alike (r.part? key) (r'.part? key)) : r.Alike r' := by
  have hparts {α : Type} {R : α → α → Prop} {f : α → Part} (hf : ∀ a b, (f a).Alike (f b) → R a b)
      {x y : Option α} (hxy : Option.Rel Part.Alike (x.map f) (y.map f)) : Option.Rel R x y := by
    cases x <;> cases y <;> cases hxy
    · exact .none
    · exact .some (hf _ _ ‹_›)
  refine ⟨fun name => hparts ?_ (h (.model, name)), fun name => hparts ?_ (h (.enumeration, name)),
    fun name => hparts ?_ (h (.entity, name)), fun name => hparts ?_ (h (.record, name))⟩
  all_goals
    intro a b hab
    cases hab
    assumption

end Registry

/-! ## Declarations -/

/-- A part of a specification as it is written down: its entries in the order of writing. -/
inductive Declaration where
  | model (name : String) (fields : List (String × Field))
    (identifiers : List (String × List String)) (related : List (String × Relation))
  | enumeration (name : String) (type : LiteralType) (entries : List (String × Literal))
  | entity (name : String) (fields : List (String × EntityField))
  | record (name : String) (fields : List (String × Field))

namespace Declaration

/-- The kind and the name of what is declared. -/
def key : Declaration → Kind × String
  | model name _ _ _ => (.model, name)
  | enumeration name _ _ => (.enumeration, name)
  | entity name _ => (.entity, name)
  | record name _ => (.record, name)

/-- Put a part together, entry by entry. -/
def part : Declaration → Part
  | model name fields identifiers related =>
    .model ⟨name, .ofList fields, .ofList identifiers, .ofList related⟩
  | enumeration name type entries => .enumeration ⟨name, type, .ofList entries⟩
  | entity name fields => .entity ⟨name, .ofList fields⟩
  | record name fields => .record ⟨name, .ofList fields⟩

theorem key_part (d : Declaration) : d.part.key = d.key := by
  cases d <;> rfl

end Declaration

/-- The map holds the entries of a list and nothing else. -/
def HoldsEntries {α : Type} (m : NameMap α) (l : List (String × α)) : Prop :=
  ∀ name a, m.get? name = some a ↔ (name, a) ∈ l

/-- The part is what is declared, with the same entries. -/
inductive Declaration.Describes : Declaration → Part → Prop
  | model {name : String} {fields : List (String × Field)}
      {identifiers : List (String × List String)} {related : List (String × Relation)}
      {m : Model} (hname : m.name = name) (hfields : HoldsEntries m.fields fields)
      (hidentifiers : HoldsEntries m.identifiers identifiers)
      (hrelated : HoldsEntries m.related related) :
      Describes (.model name fields identifiers related) (.model m)
  | enumeration {name : String} {type : LiteralType} {entries : List (String × Literal)}
      {e : Enumeration} (hname : e.name = name) (htype : e.type = type)
      (hentries : HoldsEntries e.entries entries) :
      Describes (.enumeration name type entries) (.enumeration e)
  | entity {name : String} {fields : List (String × EntityField)} {e : Entity}
      (hname : e.name = name) (hfields : HoldsEntries e.fields fields) :
      Describes (.entity name fields) (.entity e)
  | record {name : String} {fields : List (String × Field)} {s : Structure}
      (hname : s.name = name) (hfields : HoldsEntries s.fields fields) :
      Describes (.record name fields) (.record s)

/-- The registry has the parts that are declared, under their kinds and names, and no others. -/
structure Registry.Holds (r : Registry) (ds : List Declaration) : Prop where
  has : ∀ d ∈ ds, ∃ p, r.part? d.key = some p ∧ d.Describes p
  only : ∀ key p, r.part? key = some p → ∃ d ∈ ds, d.key = key ∧ d.Describes p

/-- The same entries in another order, none of them twice. -/
def Shuffled {α : Type} (l l' : List (String × α)) : Prop := (l.map (·.1)).Nodup ∧ l.Perm l'

/-- The same declaration with its entries in another order. -/
inductive Declaration.Shuffles : Declaration → Declaration → Prop
  | model {name : String} {fields fields' : List (String × Field)}
      {identifiers identifiers' : List (String × List String)}
      {related related' : List (String × Relation)} (hfields : Shuffled fields fields')
      (hidentifiers : Shuffled identifiers identifiers') (hrelated : Shuffled related related') :
      Shuffles (.model name fields identifiers related) (.model name fields' identifiers' related')
  | enumeration {name : String} {type : LiteralType} {entries entries' : List (String × Literal)}
      (hentries : Shuffled entries entries') :
      Shuffles (.enumeration name type entries) (.enumeration name type entries')
  | entity {name : String} {fields fields' : List (String × EntityField)}
      (hfields : Shuffled fields fields') : Shuffles (.entity name fields) (.entity name fields')
  | record {name : String} {fields fields' : List (String × Field)}
      (hfields : Shuffled fields fields') : Shuffles (.record name fields) (.record name fields')

/-- The same declarations in another order, each with its entries in another order. -/
def Rearranged (ds ds' : List Declaration) : Prop :=
  ∃ mid, ds.Perm mid ∧ List.Forall₂ Declaration.Shuffles mid ds'

/-! ## Rearranged entries -/

theorem Shuffled.symm {α : Type} {l l' : List (String × α)} (h : Shuffled l l') : Shuffled l' l :=
  ⟨(h.2.map _).nodup_iff.1 h.1, h.2.symm⟩

/-- Maps of the same entries agree, in whatever order these are written and listed. -/
theorem Shuffled.agree {α : Type} {l l' : List (String × α)} (h : Shuffled l l')
    {m m' : NameMap α} (hm : HoldsEntries m l) (hm' : HoldsEntries m' l') :
    NameMap.Agree (· = ·) m m' := by
  refine NameMap.agree_eq.2 fun name => Option.ext fun a => ?_
  rw [hm, hm', h.2.mem_iff]

theorem Shuffled.holds_ofList {α : Type} {l l' : List (String × α)} (h : Shuffled l l') :
    HoldsEntries (.ofList l) l := fun _ _ => NameMap.get?_ofList_iff h.1

namespace Declaration.Shuffles

variable {d d' : Declaration} (h : d.Shuffles d')

include h

theorem symm : d'.Shuffles d := by
  cases h with
  | model hfields hidentifiers hrelated =>
    exact .model hfields.symm hidentifiers.symm hrelated.symm
  | enumeration hentries => exact .enumeration hentries.symm
  | entity hfields => exact .entity hfields.symm
  | record hfields => exact .record hfields.symm

theorem key_eq : d.key = d'.key := by
  cases h <;> rfl

/-- What is put together entry by entry is what is declared. -/
theorem describes_part : d.Describes d.part := by
  cases h with
  | model hfields hidentifiers hrelated =>
    exact .model rfl hfields.holds_ofList hidentifiers.holds_ofList hrelated.holds_ofList
  | enumeration hentries => exact .enumeration rfl rfl hentries.holds_ofList
  | entity hfields => exact .entity rfl hfields.holds_ofList
  | record hfields => exact .record rfl hfields.holds_ofList

/-- Parts that are declared with the same entries are alike. -/
theorem alike {p p' : Part} (hp : d.Describes p) (hp' : d'.Describes p') : p.Alike p' := by
  cases h with
  | model hfields hidentifiers hrelated =>
    cases hp with
    | model hname hp₁ hp₂ hp₃ =>
      cases hp' with
      | model hname' hp₁' hp₂' hp₃' =>
        exact .model ⟨hname.trans hname'.symm, hfields.agree hp₁ hp₁', hidentifiers.agree hp₂ hp₂',
          hrelated.agree hp₃ hp₃'⟩
  | enumeration hentries =>
    cases hp with
    | enumeration hname htype hp =>
      cases hp' with
      | enumeration hname' htype' hp' =>
        exact .enumeration ⟨hname.trans hname'.symm, htype.trans htype'.symm, hentries.agree hp hp'⟩
  | entity hfields =>
    cases hp with
    | entity hname hp =>
      cases hp' with
      | entity hname' hp' => exact .entity ⟨hname.trans hname'.symm, hfields.agree hp hp'⟩
  | record hfields =>
    cases hp with
    | record hname hp =>
      cases hp' with
      | record hname' hp' => exact .record ⟨hname.trans hname'.symm, hfields.agree hp hp'⟩

end Declaration.Shuffles

namespace Rearranged

variable {ds ds' : List Declaration}

/-- Each declaration is there after a rearrangement, with its entries in another order. -/
theorem exists_shuffles (h : Rearranged ds ds') {d : Declaration} (hd : d ∈ ds) :
    ∃ d' ∈ ds', d.Shuffles d' := by
  obtain ⟨mid, hperm, hshuffles⟩ := h
  exact exists_left_of_forall₂ hshuffles.flip (hperm.mem_iff.1 hd)

theorem symm (h : Rearranged ds ds') : Rearranged ds' ds := by
  obtain ⟨mid, hperm, hshuffles⟩ := h
  have hback : List.Forall₂ Declaration.Shuffles ds' mid :=
    hshuffles.flip.imp fun _ _ hdd' => hdd'.symm
  have hcomp : Relation.Comp (List.Forall₂ Declaration.Shuffles) List.Perm ds' ds :=
    ⟨mid, hback, hperm.symm⟩
  rwa [List.forall₂_comp_perm_eq_perm_comp_forall₂] at hcomp

theorem nodup_keys (h : Rearranged ds ds') (hkeys : (ds.map Declaration.key).Nodup) :
    (ds'.map Declaration.key).Nodup := by
  obtain ⟨mid, hperm, hshuffles⟩ := h
  have heq : mid.map Declaration.key = ds'.map Declaration.key := by
    rw [← List.forall₂_eq_eq_eq, List.forall₂_map_left_iff, List.forall₂_map_right_iff]
    exact hshuffles.imp fun _ _ h => h.key_eq
  exact heq ▸ (hperm.map _).nodup_iff.1 hkeys

end Rearranged

/-! ## Registries of declarations -/

namespace Registry

/-- Registries of rearranged declarations are alike. -/
theorem Holds.alike {r r' : Registry} {ds ds' : List Declaration} (hr : r.Holds ds)
    (hr' : r'.Holds ds') (h : Rearranged ds ds') : r.Alike r' := by
  refine alike_of_part? fun key => ?_
  cases hpart : r.part? key with
  | some p =>
    obtain ⟨d, hd, rfl, hp⟩ := hr.only key p hpart
    obtain ⟨d', hd', hdd'⟩ := h.exists_shuffles hd
    obtain ⟨p', hpart', hp'⟩ := hr'.has d' hd'
    rw [hdd'.key_eq, hpart']
    exact .some (hdd'.alike hp hp')
  | none =>
    cases hpart' : r'.part? key with
    | none => exact .none
    | some p' =>
      obtain ⟨d', hd', rfl, -⟩ := hr'.only key p' hpart'
      obtain ⟨d, hd, hdd'⟩ := h.symm.exists_shuffles hd'
      obtain ⟨p, hsome, -⟩ := hr.has d hd
      rw [← hdd'.key_eq, hpart] at hsome
      cases hsome

/-- The registry of declarations, inserted one after the other. -/
def declared (ds : List Declaration) : Registry := (ds.map Declaration.part).foldl insert {}

/-- After insertions of distinct keys, a part is one of them or was there before. -/
theorem part?_foldl_insert {ps : List Part} (hkeys : (ps.map Part.key).Nodup) {r : Registry}
    {key : Kind × String} {p : Part} : (ps.foldl insert r).part? key = some p ↔
      (p ∈ ps ∧ p.key = key) ∨ (key ∉ ps.map Part.key ∧ r.part? key = some p) := by
  induction ps generalizing r with
  | nil => simp
  | cons q ps ih =>
    obtain ⟨hnot, hrest⟩ := List.nodup_cons.1 hkeys
    rw [List.foldl_cons, ih hrest, part?_insert]
    by_cases hkey : key = q.key
    · subst hkey
      have hother : p ∈ ps → p.key ≠ q.key := by
        intro hp heq
        exact hnot (heq ▸ List.mem_map_of_mem hp)
      simp only [if_true, Option.some.injEq, List.mem_cons, List.map_cons]
      grind
    · simp only [hkey, if_false, List.mem_cons, List.map_cons]
      grind

/-- Where no part is declared twice, the parts of the registry are those that are declared. -/
theorem part?_declared {ds : List Declaration} (hkeys : (ds.map Declaration.key).Nodup)
    {key : Kind × String} {p : Part} :
    (declared ds).part? key = some p ↔ ∃ d ∈ ds, d.key = key ∧ d.part = p := by
  have hempty : ({} : Registry).part? key = none := by
    obtain ⟨kind, name⟩ := key
    cases kind <;> rfl
  have hparts : ((ds.map Declaration.part).map Part.key).Nodup := by
    simpa [Function.comp_def, Declaration.key_part] using hkeys
  rw [declared, part?_foldl_insert hparts, hempty, List.mem_map]
  constructor
  · rintro (⟨⟨d, hd, rfl⟩, hkey⟩ | ⟨-, hnone⟩)
    · exact ⟨d, hd, d.key_part ▸ hkey, rfl⟩
    · cases hnone
  · rintro ⟨d, hd, hkey, rfl⟩
    exact .inl ⟨⟨d, hd, rfl⟩, d.key_part.trans hkey⟩

/-- Insertions make a registry that holds what is declared. -/
theorem holds_declared {ds ds' : List Declaration} (hkeys : (ds.map Declaration.key).Nodup)
    (h : Rearranged ds ds') : (declared ds).Holds ds where
  has := by
    intro d hd
    obtain ⟨d', -, hdd'⟩ := h.exists_shuffles hd
    exact ⟨d.part, (part?_declared hkeys).2 ⟨d, hd, rfl, rfl⟩, hdd'.describes_part⟩
  only := by
    intro key p hpart
    obtain ⟨d, hd, hkey, rfl⟩ := (part?_declared hkeys).1 hpart
    obtain ⟨d', -, hdd'⟩ := h.exists_shuffles hd
    exact ⟨d, hd, hkey, hdd'.describes_part⟩

end Registry

end Schemata.Spec

namespace Schemata.Emission

open Lowering Spec Sql

variable {σ : Type}

/-- Whatever the settings and the writers, and whatever the hooks that do not depend on listings:
registries that hold rearranged declarations, each listed in any order, compile to the same schema,
with its order, objects and bytes, or fail with the same error, and leave the same state. The
registries that insertions make in either order are among them. -/
theorem compileAll_rearranged (c : Compiler σ) (hc : c.hooks.Extensional) (w : Writers σ)
    {ds ds' : List Declaration} (hkeys : (ds.map Declaration.key).Nodup) (h : Rearranged ds ds') :
    (Registry.declared ds).Holds ds ∧ (Registry.declared ds').Holds ds'
    ∧ ∀ r r' : Registry, r.Holds ds → r'.Holds ds' → ∀ st,
      (c.compileAll r w).outcome st = (c.compileAll r' w).outcome st := by
  refine ⟨Registry.holds_declared hkeys h, Registry.holds_declared (h.nodup_keys hkeys) h.symm, ?_⟩
  intro r r' hr hr' st
  rw [Compiler.compileAll_alike hc (hr.alike hr' h)]

namespace Sample

/-- The sample as it is written down, every list of it in the given order. -/
def declarations (inOrder : {α : Type} → List α → List α) : List Declaration :=
  let fields : List (String × Field) :=
    inOrder [("ID", { type := .autoIncrement }), ("Name", { type := .string })]
  let identifiers := inOrder [(primary, ["ID"])]
  inOrder [
    .model "Company" fields identifiers (inOrder []),
    .model "Person" fields identifiers (inOrder [("Company", ⟨.forOne, "Company", none⟩),
      ("Manager", ⟨.forOne, "Manager", some "Person"⟩), ("Tag", ⟨.forMany, "Tag", none⟩)]),
    .model "Tag" fields identifiers (inOrder []),
    .enumeration "Color" .string (inOrder [("Red", .string "r")]),
    .entity "Employee" (inOrder [("Boss", { path := "Person.Manager.Name" }),
      ("Employer", { path := "Person.Company.Name" }), ("Name", { path := "Person.Name" })])]

theorem rearranged_declarations :
    Rearranged (declarations id) (declarations List.reverse) := by
  have hreverse {α : Type} {l : List (String × α)} (h : (l.map (·.1)).Nodup) :
      Shuffled l l.reverse := ⟨h, (List.reverse_perm l).symm⟩
  refine ⟨(declarations id).reverse, (List.reverse_perm _).symm, ?_⟩
  refine .cons (.entity (hreverse ?_)) (.cons (.enumeration (hreverse ?_))
    (.cons (.model (hreverse ?_) (hreverse ?_) (hreverse ?_))
      (.cons (.model (hreverse ?_) (hreverse ?_) (hreverse ?_))
        (.cons (.model (hreverse ?_) (hreverse ?_) (hreverse ?_)) .nil)))) <;> decide

/-- An enumeration of integers with two texts among them. -/
def misdeclared (inOrder : {α : Type} → List α → List α) : List Declaration :=
  [.enumeration "Level" .integer
    (inOrder [("One", .string "1"), ("Two", .string "2"), ("Zero", .integer 0)])]

theorem rearranged_misdeclared : Rearranged (misdeclared id) (misdeclared List.reverse) :=
  ⟨_, .refl _, .cons (.enumeration ⟨by decide, (List.reverse_perm _).symm⟩) .nil⟩

/-- An enumeration of texts with one more entry. -/
def complete (e : Enumeration) : Enumeration :=
  if e.type = .string then { e with entries := e.entries.insert "Other" (.string "") } else e

theorem alike_complete {e e' : Enumeration} (h : e.Alike e') :
    (complete e).Alike (complete e') := by
  have hinsert : NameMap.Agree (· = ·) (e.entries.insert "Other" (.string ""))
      (e'.entries.insert "Other" (.string "")) := by
    refine NameMap.agree_eq.2 fun name => ?_
    rw [NameMap.get?_insert, NameMap.get?_insert, NameMap.agree_eq.1 h.entries]
  unfold complete
  by_cases htype : e.type = .string
  · rw [if_pos htype, if_pos (h.type_eq ▸ htype)]
    exact ⟨h.name_eq, h.type_eq, hinsert⟩
  · rw [if_neg htype, if_neg (h.type_eq ▸ htype)]
    exact h

/-- Hooks that complete every enumeration. -/
def completing : Hooks Unit :=
  { enumeration := { onStart := some fun s e => pure (s, complete e) } }

theorem extensional_completing : completing.Extensional where
  model := UnitHooks.extensional_none _
  entity := UnitHooks.extensional_none _
  enumeration := by
    refine ⟨?_, by simp [completing]⟩
    rintro hook ⟨⟩ s e e' he st
    exact ⟨.ok ⟨rfl, alike_complete he⟩, rfl⟩

end Sample

/-- The sample, written down backwards, makes another registry and compiles to the same, with hooks
that complete its enumeration. Of two texts among integers the same one is reported. -/
theorem compileAll_rearranged_sample :
    let c : Compiler Unit := .ofSettings Sample.settings Sample.completing
    let there := Registry.declared (Sample.declarations id)
    let back := Registry.declared (Sample.declarations List.reverse)
    there ≠ back
      ∧ (∃ s, (c.compileAll there {}).Yields () s () ∧ (c.compileAll back {}).Yields () s ())
      ∧ (c.compileAll (.declared (Sample.misdeclared List.reverse)) {}).Fails ()
        (.inUnit .enumeration "Level" (.entryType "Level" "One" .integer)) () := by
  intro c there back
  have hc : c.hooks.Extensional := Sample.extensional_completing
  have hdiffers : there ≠ back := by decide +kernel
  obtain ⟨hthere, hback, hsame⟩ := compileAll_rearranged c hc {} (by decide +kernel)
    Sample.rearranged_declarations
  obtain ⟨hholds, hholds', hsame'⟩ := compileAll_rearranged c hc {} (by decide +kernel)
    Sample.rearranged_misdeclared
  have hok : ((c.compileAll there {}).outcome ()).1.isOk = true := by decide +kernel
  obtain ⟨s, hs⟩ := Step.exists_yields_of_isOk hok
  have hfails : (c.compileAll (.declared (Sample.misdeclared id)) {}).Fails ()
      (.inUnit .enumeration "Level" (.entryType "Level" "One" .integer)) () := by
    refine Prod.ext (failure?_eq_some.1 ?_) (Subsingleton.elim _ _)
    decide +kernel
  refine ⟨hdiffers, ⟨s, hs, (hsame there back hthere hback ()).symm.trans hs⟩, ?_⟩
  exact (hsame' _ _ hholds hholds' ()).symm.trans hfails

end Schemata.Emission
