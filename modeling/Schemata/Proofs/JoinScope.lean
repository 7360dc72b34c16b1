import Schemata.Proofs.IdentifierLimit

/-!
# The scope of aliases in views

A view introduces aliases from left to right: one for the table it starts from, then one with each
join. A condition may use what stands before it and the alias of its own join, and a column may use
all of them. An alias is introduced once. For a hop back to the first table that depends on the
alias which is made up for it: it must not come out as the name of that table again, which it does
not, unless a digest is added to a name that ends in the same digest.

References are texts, cut at their first dot. That it is the dot between alias and column is part of
being in scope.

## Main definitions

* `RefersTo`: a text refers to a column under an alias, and is cut into these two.
* `InScope`: each join uses what stands before it.
* `View.Scoped`: a view introduces each alias once, and uses it in its scope.
* `digestsFresh`: no made-up alias ends in a digest that the name of the first table ends in.

## Main statements

* `InScope.concat`: one more join.
* `joinAlias_ne`: an alias is never the name of the first table.
* `compileEntity_scoped`: views are scoped.
-/

namespace Schemata.Sql

/-! ## Scopes -/

/-- A text refers to a column under an alias, and is cut into these two at its first dot. -/
def RefersTo (text asName column : String) : Prop :=
  text = reference asName column ∧ referenceTokens text = [.ident asName, .dot, .ident column]

theorem refersTo_reference {asName column : String} (h : '.' ∉ asName.toList) :
    RefersTo (reference asName column) asName column :=
  ⟨rfl, referenceTokens_reference h⟩

/-- The aliases of joins. -/
def aliases (joins : List Join) : List String := joins.map (·.asName)

/-- A join is made on one condition, between a column under one of the given aliases and one under
its own. -/
def Join.Uses (scope : List String) (j : Join) : Prop :=
  ∃ asName ∈ scope, ∃ left right,
    j.conditions = [⟨reference asName left, reference j.asName right⟩]

/-- Each join uses the first alias or that of a join before it. -/
def InScope (first : String) (joins : List Join) : Prop :=
  ∀ before j after, joins = before ++ j :: after → j.Uses (first :: aliases before)

theorem InScope.nil (first : String) : InScope first [] := by
  intro before j after h
  simp at h

theorem InScope.concat {first : String} {joins : List Join} {j : Join} (h : InScope first joins)
    (hj : j.Uses (first :: aliases joins)) : InScope first (joins ++ [j]) := by
  intro before k after heq
  rcases List.eq_nil_or_concat after with rfl | ⟨after, last, rfl⟩
  · obtain ⟨rfl, hk⟩ := List.append_inj' heq rfl
    rwa [← List.singleton_inj.1 hk]
  · rw [List.concat_eq_append, ← List.cons_append, ← List.append_assoc] at heq
    exact h before k after (List.append_inj' heq rfl).1

/-- A view introduces each alias once, and uses it where it is known: in the conditions of later
joins, next to the alias of the join itself, and in columns. -/
structure View.Scoped (v : View) : Prop where
  nodup : (v.fromAlias :: aliases v.joins).Nodup
  conditions : ∀ before j after, v.joins = before ++ j :: after →
    ∃ c, j.conditions = [c] ∧ (∃ asName ∈ v.fromAlias :: aliases before, ∃ column,
        RefersTo c.left asName column)
      ∧ ∃ column, RefersTo c.right j.asName column
  columns : ∀ c ∈ v.columns, ∃ asName ∈ v.fromAlias :: aliases v.joins, ∃ column,
    RefersTo c.source asName column

end Schemata.Sql

namespace Schemata.Lowering

open Spec Sql Settings

/-! ## Aliases for the first table -/

/-- The alias for a hop back to a table ends in no digest, or in one that the name of the table does
not end in. -/
def digestFresh (table hop : String) : Bool :=
  let long := table.toList ++ '_' :: Naming.words hop
  !Naming.isMarked long
    || (Naming.segments table.toList).getLast? != some (Text.Digest.short long)

/-- No hop back to the first table has an alias that ends in a digest with which the name of that
table ends already. -/
def digestsFresh (r : Registry) (e : Entity) : Bool :=
  e.fields.entries.all fun f => (trip? r e f).all fun t => t.hops.all fun h =>
    h.target.table != t.start.table || digestFresh t.start.table h.relation

/-- The alias of a hop is not the name of the first table. -/
theorem joinAlias_ne {rootTable table hop : String}
    (h : table = rootTable → digestFresh rootTable hop = true) :
    joinAlias rootTable table hop ≠ rootTable := by
  by_cases hback : table = rootTable
  · rw [joinAlias, if_pos hback, hback]
    intro hsame
    refine Naming.abbreviateChars_append_ne (Naming.words hop) (fun hmarked => ?_)
      (String.ofList_injective (hsame.trans String.ofList_toList.symm))
    have hfresh := h hback
    simp only [digestFresh, hmarked, Bool.not_true, Bool.false_or] at hfresh
    exact bne_iff_ne.1 hfresh
  · rwa [joinAlias, if_neg hback]

/-! ## Walks in scope -/

/-- A walk has joins in scope, and has reached a table under an alias that is known. -/
structure Walk.Scoped (first : String) (w : Walk) : Prop where
  joins : InScope first w.joins
  known : w.asName ∈ first :: aliases w.joins

theorem Walk.Scoped.hop {schema : String} {r : Registry} {e : Entity}
    {field rootTable name first : String} {w w' : Walk} (hw : w.Scoped first)
    (h : Walk.hop schema r e field rootTable w name = .ok w') : w'.Scoped first := by
  obtain ⟨_, target, asName, joins, -, -, -, -, hadd, rfl⟩ := Walk.hop_eq_ok.1 h
  rcases addJoin_ok.1 hadd with ⟨htaken, rfl⟩ | ⟨-, j, hjoin, rfl⟩
  · exact ⟨hw.joins, List.mem_cons_of_mem _ htaken⟩
  · obtain ⟨source, key, -, -, rfl⟩ := joinFor_ok.1 hjoin
    exact ⟨hw.joins.concat ⟨w.asName, hw.known, _, _, rfl⟩, by simp [aliases]⟩

/-- The joins of a draft are in scope, whatever paths it is made of. -/
theorem foldlM_addPath_inScope {schema : String} {r : Registry} {e : Entity} {root : Model}
    {name : String} {d : Draft} {paths : List FieldPath}
    (h : paths.foldlM (addPath schema r e root name) {} = .ok d) :
    InScope (Stop.first root).asName d.joins := by
  refine foldlM_ok (fun _ (d : Draft) => InScope (Stop.first root).asName d.joins) h
    (InScope.nil _) ?_
  intro _ path d d' _ hd hadd
  obtain ⟨-, w, hwalk, -, rfl⟩ := addPath_eq_ok.1 hadd
  -- every path starts over at the first table, with the joins of the paths before it
  have hstart : Walk.Scoped (Stop.first root).asName ⟨root, (Stop.first root).asName, d.joins⟩ :=
    ⟨hd, List.mem_cons_self⟩
  exact (foldlM_ok (fun _ => Walk.Scoped (Stop.first root).asName) hwalk hstart
    fun _ _ _ _ _ hw hhop => hw.hop hhop).joins

/-! ## Views in scope -/

namespace Viewed

variable {s : EntitySettings} {r : Registry} {e : Entity} {root : Model} {trips : List Trip}
  {v : View}

theorem mem_aliases (hv : Viewed s r e root trips v) {asName : String} :
    asName ∈ v.fromAlias :: aliases v.joins ↔ ∃ x ∈ stops root trips, x.asName = asName := by
  constructor
  · intro h
    have hdenotes : ∃ table, v.Denotes asName table := by
      rcases List.mem_cons.1 h with rfl | h
      · exact ⟨_, .inl ⟨rfl, rfl⟩⟩
      · obtain ⟨j, hj, hname⟩ := List.mem_map.1 h
        exact ⟨_, .inr ⟨j, hj, hname, rfl⟩⟩
    obtain ⟨table, htable⟩ := hdenotes
    obtain ⟨x, hx, hname, -⟩ := hv.exists_stop_of_denotes htable
    exact ⟨x, hx, hname⟩
  · rintro ⟨x, hx, rfl⟩
    obtain ⟨table, ⟨hname, -⟩ | ⟨j, hj, hname, -⟩⟩ := hv.exists_denotes hx
    · exact List.mem_cons.2 (.inl hname)
    · exact List.mem_cons_of_mem _ (List.mem_map.2 ⟨j, hj, hname⟩)

theorem dotless_of_mem_aliases (hv : Viewed s r e root trips v) {asName : String}
    (h : asName ∈ v.fromAlias :: aliases v.joins) : '.' ∉ asName.toList := by
  obtain ⟨x, hx, rfl⟩ := hv.mem_aliases.1 h
  exact (hv.fits_asName hx).2

/-- With fresh digests, no join takes the alias of the first table. -/
theorem fromAlias_notMem (hv : Viewed s r e root trips v) (hd : digestsFresh r e = true) :
    v.fromAlias ∉ aliases v.joins := by
  intro hmem
  obtain ⟨j, hj, hname⟩ := List.mem_map.1 hmem
  obtain ⟨t, ht, h, hh, hjoin⟩ := hv.exists_hop_of_join hj
  obtain ⟨_, _, -, -, rfl⟩ := Hop.join_ok.1 hjoin
  obtain ⟨-, -, halias⟩ := route?_mem (hv.along t ht).hops_eq hh
  have hhop := hv.of_all_hops hd ht hh
  have hfirst : v.fromAlias = t.start.table := by
    rw [hv.fromAlias_eq, (hv.along t ht).start_eq]
    rfl
  refine joinAlias_ne (fun hback => ?_) (halias.symm.trans (hname.trans hfirst))
  rw [hback, bne_self_eq_false, Bool.false_or] at hhop
  exact hhop

end Viewed

/-- In the view of an entity each alias is introduced once and used in its scope, and all references
are cut into alias and column, provided that no digest comes out as one that is there already. -/
theorem compileEntity_scoped {s : EntitySettings} {r : Registry} {e : Entity} {v : View}
    (h : compileEntity s r e = .ok v) (hd : digestsFresh r e = true) : v.Scoped := by
  obtain ⟨root, trips, hv⟩ := compileEntity_ok h
  have hscope : InScope v.fromAlias v.joins := by
    obtain ⟨-, -, -, -, paths, _, draft, -, -, hdraft, rfl⟩ := compileEntity_eq_ok.1 h
    exact foldlM_addPath_inScope hdraft
  refine ⟨List.nodup_cons.2 ⟨hv.fromAlias_notMem hd, hv.joined.nodup⟩, ?_, ?_⟩
  · intro before j after hsplit
    obtain ⟨asName, hmem, left, right, hconditions⟩ := hscope before j after hsplit
    have hknown : asName ∈ v.fromAlias :: aliases v.joins := by
      rw [hsplit]
      simp only [aliases, List.map_append, List.mem_cons, List.mem_append] at hmem ⊢
      exact hmem.imp_right .inl
    have hown : j.asName ∈ v.fromAlias :: aliases v.joins := by
      simp [hsplit, aliases]
    exact ⟨_, hconditions,
      ⟨asName, hmem, left, refersTo_reference (hv.dotless_of_mem_aliases hknown)⟩,
      right, refersTo_reference (hv.dotless_of_mem_aliases hown)⟩
  · intro c hc
    rw [hv.columns_eq] at hc
    obtain ⟨t, ht, rfl⟩ := List.mem_map.1 hc
    have hlast := hv.last_mem_stops ht
    exact ⟨t.last.asName, hv.mem_aliases.2 ⟨t.last, hlast, rfl⟩, _,
      refersTo_reference (hv.fits_asName hlast).2⟩

namespace LongName

/-- A model whose name leaves no room for two more words, with a parent of its own kind and a
badge. -/
def descendant : Model :=
  { model with
    related := NameMap.ofList [("Badge", ⟨.forOne, "Badge", none⟩),
      ("ParentUnit", ⟨.forOne, "ParentUnit", some name⟩)] }

def badge : Model :=
  { name := "Badge"
    fields := NameMap.ofList [("ID", { type := .uuid })]
    identifiers := NameMap.ofList [(primary, ["ID"])] }

def descent : Registry :=
  { models := NameMap.ofList [("Badge", badge), (name, descendant)] }

/-- The badge of the parent, next to one's own key. -/
def heirloom : Entity :=
  { name := "Heirloom"
    fields := NameMap.ofList [("Badge", { path := name ++ ".ParentUnit.Badge.ID" }),
      ("ID", { path := name ++ ".ID" })] }

/-- The alias of the parent, cut and with a digest. -/
def parentAlias : String := "ab_cd_ef_gh_ij_kl_mn_op_qr_st_uv_wx_yz_ab_cd_ef_gh_ij_8b44f3ec"

theorem exists_view : ∃ v, compileEntity {} descent heirloom = .ok v
    ∧ digestsFresh descent heirloom = true
    ∧ v.fromAlias :: aliases v.joins
      = ["ab_cd_ef_gh_ij_kl_mn_op_qr_st_uv_wx_yz_ab_cd_ef_gh_ij_kl_mns", parentAlias,
        "badges"] := by
  have heval : digestsFresh descent heirloom = true
      ∧ (compileEntity {} descent heirloom).toOption.map (fun v => v.fromAlias :: aliases v.joins)
        = some ["ab_cd_ef_gh_ij_kl_mn_op_qr_st_uv_wx_yz_ab_cd_ef_gh_ij_kl_mns", parentAlias,
          "badges"] := by
    decide +kernel
  obtain ⟨v, hv, hnames⟩ := Option.map_eq_some_iff.1 heval.2
  exact ⟨v, toOption_eq_some.1 hv, heval.1, hnames⟩

end LongName

/-- A path that goes back to its first table and on from there: the alias of the first table is cut,
and a digest tells it apart. -/
theorem compileEntity_scoped_heirloom :
    ∃ v, compileEntity {} LongName.descent LongName.heirloom = .ok v
    ∧ digestsFresh LongName.descent LongName.heirloom = true
    ∧ v.fromAlias :: aliases v.joins
      = ["ab_cd_ef_gh_ij_kl_mn_op_qr_st_uv_wx_yz_ab_cd_ef_gh_ij_kl_mns", LongName.parentAlias,
        "badges"]
    ∧ v.Scoped := by
  obtain ⟨v, hv, hfresh, hnames⟩ := LongName.exists_view
  exact ⟨v, hv, hfresh, hnames, compileEntity_scoped hv hfresh⟩

end Schemata.Lowering
