import Schemata.Proofs.ModelTables

/-!
# Well-formed tables

A table can be created when its columns have distinct names, it has a primary key whose columns must
have values, and its keys, indices and constraints are about columns of its own. Every table of a
model that compiles is such a table. For the table of the model itself that is checked while it is
put together. For a joining table it is not: there it rests on the names of the two sides, which
stay apart from each other and from the key, whatever is cut from them.

## Main definitions

* `Table.WellFormed`: a table that can be created.

## Main statements

* `compileModel_wellFormed`: the tables of every model are well formed.
-/

namespace Schemata.Sql

/-- Every one of the given names is that of a column of the table. -/
def Table.HasColumns (t : Table) (names : List String) : Prop :=
  ∀ name ∈ names, ∃ c ∈ t.columns, c.name = name

/-- A table by itself is fit to be created. -/
structure Table.WellFormed (t : Table) : Prop where
  /-- No two columns have one name. -/
  nodup_names : (t.columns.map (·.name)).Nodup
  /-- There is a primary key. -/
  exists_primary : ∃ c ∈ t.columns, c.primary = true
  /-- The columns of the primary key must have values. -/
  primary_required : ∀ c ∈ t.columns, c.primary = true → c.nullable = false
  /-- Foreign keys are held by the table itself, in columns of its own. -/
  foreignKeys : ∀ k ∈ t.foreignKeys,
    k.schema = t.schema ∧ k.table = t.name ∧ t.HasColumns k.columns
  /-- Indices are on the table itself, over columns of its own. -/
  indices : ∀ i ∈ t.indices, i.schema = t.schema ∧ i.table = t.name ∧ t.HasColumns i.columns
  /-- Unique constraints are over columns of the table. -/
  uniques : ∀ u ∈ t.uniques, t.HasColumns u.columns

end Schemata.Sql

namespace Schemata.Lowering

open Spec Sql Settings

/-! ## The table of a model -/

/-- The column of a link is among those of its table. -/
theorem hasColumns_link {s : ModelSettings} {m : Model} {ones : List Link} {l : Link}
    (hl : l ∈ ones) : (tableOf s m ones).HasColumns [l.column.name] := by
  intro name hname
  rw [List.mem_singleton.1 hname]
  exact ⟨l.column, List.mem_append_right _ (List.mem_map_of_mem hl), rfl⟩

/-- The table of a model that is in order by itself is well formed, when its columns have distinct
names. -/
theorem wellFormed_tableOf {s : ModelSettings} {m : Model} {ones : List Link}
    (hcheck : checkModel m = .ok ())
    (hnodup : ((tableOf s m ones).columns.map (·.name)).Nodup) :
    (tableOf s m ones).WellFormed := by
  obtain ⟨-, ⟨key, rest, hprimary⟩, hfields⟩ := checkModel_ok.1 hcheck
  refine ⟨hnodup, ?_, ?_, ?_, ?_, ?_⟩
  · obtain ⟨field, hfield⟩ := hfields _ _ hprimary key List.mem_cons_self
    refine ⟨ownColumn s m (key, field), ?_, ?_⟩
    · exact List.mem_append_left _ (List.mem_map_of_mem (NameMap.mem_entries_iff.2 hfield))
    · simp [hprimary]
  · intro c hc hkey
    rcases List.mem_append.1 hc with hc | hc
    · obtain ⟨entry, -, rfl⟩ := List.mem_map.1 hc
      rw [primary_ownColumn, List.contains_iff_mem] at hkey
      exact (nullable_ownColumn_iff s m entry).2 (.inl hkey)
    · -- references do not belong to the primary key
      obtain ⟨l, -, rfl⟩ := List.mem_map.1 hc
      cases hkey
  · intro k hk
    obtain ⟨l, hl, rfl⟩ := List.mem_map.1 hk
    exact ⟨rfl, rfl, hasColumns_link hl⟩
  · intro i hi
    obtain ⟨l, hl, rfl⟩ := List.mem_map.1 hi
    exact ⟨rfl, rfl, hasColumns_link hl⟩
  · intro u hu name hname
    obtain ⟨entry, hentry, rfl⟩ := List.mem_map.1 hu
    obtain ⟨f, hf, rfl⟩ := List.mem_map.1 hname
    have hget := NameMap.mem_entries_iff.1 (List.mem_of_mem_filter hentry)
    obtain ⟨field, hfield⟩ := hfields _ _ hget f hf
    exact List.mem_map.1 (columnName_mem_tableOf hfield)

/-! ## Joining tables -/

theorem wellFormed_junctionOf (s : ModelSettings) (x : Referent) (l : Link) :
    (junctionOf s x l).WellFormed := by
  have hsource : (junctionOf s x l).HasColumns [x.side.name] := by
    intro name hname
    exact ⟨x.side, by simp [junctionOf], (List.mem_singleton.1 hname).symm⟩
  have htarget : (junctionOf s x l).HasColumns [(l.side x).name] := by
    intro name hname
    exact ⟨l.side x, by simp [junctionOf], (List.mem_singleton.1 hname).symm⟩
  refine ⟨nodup_names_junctionOf s x l, ?_, ?_, ?_, ?_, ?_⟩
  · exact ⟨_, List.mem_cons_self, rfl⟩
  · intro c hc _
    simp only [junctionOf, List.mem_cons, List.not_mem_nil, or_false] at hc
    rcases hc with rfl | rfl | rfl <;> rfl
  · intro k hk
    rcases List.mem_pair.1 hk with rfl | rfl
    · exact ⟨rfl, rfl, hsource⟩
    · exact ⟨rfl, rfl, htarget⟩
  · intro i hi
    rcases List.mem_pair.1 hi with rfl | rfl
    · exact ⟨rfl, rfl, hsource⟩
    · exact ⟨rfl, rfl, htarget⟩
  · intro u hu
    rw [List.mem_singleton.1 hu]
    exact List.forall_mem_cons.2 ⟨hsource _ List.mem_cons_self, htarget⟩

/-! ## All tables of a model -/

/-- Every table of a model that compiles is well formed. A joining table has three columns, a key
and the two sides, and no two of them have one name. -/
theorem compileModel_wellFormed {s : ModelSettings} {r : Registry} {m : Model} {ts : ModelTables}
    (h : compileModel s r m = .ok ts) :
    (∀ t ∈ ts.table :: ts.junctions, t.WellFormed)
    ∧ ∀ j ∈ ts.junctions, ∃ source target, j.columns.map (·.name) = ["id", source, target]
      ∧ source ≠ "id" ∧ target ≠ "id" ∧ source ≠ target := by
  obtain ⟨ones, many, hl⟩ := compileModel_ok h
  have hjunction : ∀ j ∈ ts.junctions, ∃ x l, j = junctionOf s x l := by
    intro j hj
    obtain ⟨l, -, hok⟩ := exists_left_of_forall₂ hl.junctions_eq hj
    obtain ⟨x, -, -, heq⟩ := Link.junction_ok.1 hok
    exact ⟨x, l, heq⟩
  constructor
  · intro t ht
    rcases List.mem_cons.1 ht with rfl | ht
    · have hnodup := hl.nodup_names
      rw [hl.table_eq] at hnodup ⊢
      exact wellFormed_tableOf (checkModel_of_compileModel h) hnodup
    · obtain ⟨x, l, rfl⟩ := hjunction t ht
      exact wellFormed_junctionOf s x l
  · intro j hj
    obtain ⟨x, l, rfl⟩ := hjunction j hj
    have hnodup := nodup_names_junctionOf s x l
    refine ⟨x.side.name, (l.side x).name, rfl, ?_⟩
    simp only [junctionOf, Column.key, List.map_cons, List.map_nil, List.nodup_cons,
      List.mem_cons, List.not_mem_nil, or_false, not_or] at hnodup
    obtain ⟨⟨hsource, htarget⟩, hsides, -⟩ := hnodup
    exact ⟨Ne.symm hsource, Ne.symm htarget, hsides⟩

namespace LongName

/-- Twenty words of two letters: none gets shorter, and there is no room for one more. -/
def name : String := "AbCdEfGhIjKlMnOpQrStUvWxYzAbCdEfGhIjKlMn"

/-- A model with one parent and many others among its own. -/
def model : Model :=
  { name := name
    fields := NameMap.ofList [("ID", { type := .autoIncrement })]
    identifiers := NameMap.ofList [(primary, ["ID"])]
    related := NameMap.ofList [(name, ⟨.forMany, name, none⟩),
      ("Parent", ⟨.forOne, "Parent", some name⟩)] }

def registry : Registry := { models := NameMap.ofList [(name, model)] }

theorem exists_ok : ∃ ts, compileModel {} registry model = .ok ts
    ∧ ts.junctions.map (fun j => j.columns.map (·.name)) =
      [["id", "ab_cd_ef_gh_ij_kl_mn_op_qr_st_uv_wx_yz_ab_cd_ef_gh_ij_kl_mn_id",
        "re_ab_cd_ef_gh_ij_kl_mn_op_qr_st_uv_wx_yz_ab_cd_ef_gh_5a7a61d9"]] := by
  have heval : (compileModel {} registry model).toOption.map (fun ts =>
      ts.junctions.map fun j => j.columns.map (·.name)) = some
      [["id", "ab_cd_ef_gh_ij_kl_mn_op_qr_st_uv_wx_yz_ab_cd_ef_gh_ij_kl_mn_id",
        "re_ab_cd_ef_gh_ij_kl_mn_op_qr_st_uv_wx_yz_ab_cd_ef_gh_5a7a61d9"]] := by
    decide +kernel
  obtain ⟨ts, hts, hnames⟩ := Option.map_eq_some_iff.1 heval
  exact ⟨ts, toOption_eq_some.1 hts, hnames⟩

end LongName

/-- A model associated with itself whose name leaves no room for what tells the other side apart: it
is cut, and a digest takes the place of the last words. -/
theorem compileModel_wellFormed_longName :
    ∃ ts, compileModel {} LongName.registry LongName.model = .ok ts
    ∧ ts.junctions.map (fun j => j.columns.map (·.name)) =
      [["id", "ab_cd_ef_gh_ij_kl_mn_op_qr_st_uv_wx_yz_ab_cd_ef_gh_ij_kl_mn_id",
        "re_ab_cd_ef_gh_ij_kl_mn_op_qr_st_uv_wx_yz_ab_cd_ef_gh_5a7a61d9"]]
    ∧ (∀ t ∈ ts.table :: ts.junctions, t.WellFormed)
    ∧ ∀ j ∈ ts.junctions, ∃ source target, j.columns.map (·.name) = ["id", source, target]
      ∧ source ≠ "id" ∧ target ≠ "id" ∧ source ≠ target := by
  obtain ⟨ts, hok, hnames⟩ := LongName.exists_ok
  exact ⟨ts, hok, hnames, compileModel_wellFormed hok⟩

end Schemata.Lowering
