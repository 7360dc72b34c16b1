import Schemata.Proofs.ViewScope
import Schemata.Proofs.WellFormedTables

/-!
# Identifiers within the limit of the database

Every identifier that a compilation makes up is at most 63 bytes long, however long the names of the
specification are and however many bytes their characters take. Schemas are not made up: they are
taken from the settings as they are.

A reference in a view is one text for an alias and a column. What counts are the two names that it
is written with, `referenceNames`; since no alias has a dot in it, they are the two that were put
together.

## Main definitions

* `Table.identifiers`, `Seed.identifiers`, `View.identifiers`: all names in them but schemas.
* `Naming.Fits`: a name is within the limit.

## Main statements

* `Naming.fits_bounded`: every name that is built for the database fits.
* `identifiers_fit`: all identifiers of all tables and views do.
-/

namespace Schemata

/-! ## Identifiers -/

namespace Sql

/-- The identifiers of a foreign key, on both sides. -/
def ForeignKey.identifiers (k : ForeignKey) : List String :=
  k.name :: k.table :: k.refTable :: (k.columns ++ k.refColumns)

def Index.identifiers (i : Index) : List String := i.name :: i.table :: i.columns

def UniqueConstraint.identifiers (u : UniqueConstraint) : List String := u.name :: u.columns

/-- The identifiers of a table and of all that belongs to it. -/
def Table.identifiers (t : Table) : List String :=
  t.name :: (t.columns.map (·.name)
    ++ t.foreignKeys.flatMap ForeignKey.identifiers
    ++ t.indices.flatMap Index.identifiers
    ++ t.uniques.flatMap UniqueConstraint.identifiers)

def Seed.identifiers (s : Seed) : List String := s.table :: s.columns

/-- The identifier that a token is. -/
def Token.identifier? : Token → Option String
  | .ident name => some name
  | _ => none

/-- The identifiers that a reference is written with. -/
def referenceNames (text : String) : List String :=
  (referenceTokens text).filterMap Token.identifier?

def ViewColumn.identifiers (c : ViewColumn) : List String := c.name :: c.asName.toList

def Join.identifiers (j : Join) : List String := [j.table, j.asName]

/-- The identifiers of a view: its own, those of the tables it reads and of its columns, and those
within references. -/
def View.identifiers (v : View) : List String :=
  v.name :: v.fromTable :: v.fromAlias :: (v.columns.flatMap ViewColumn.identifiers
    ++ v.joins.flatMap Join.identifiers
    ++ v.references.flatMap referenceNames)

/-- A reference under an alias without dots is cut into the alias and the column. -/
theorem referenceTokens_reference {asName column : String} (h : '.' ∉ asName.toList) :
    referenceTokens (reference asName column) = [.ident asName, .dot, .ident column] := by
  have hchars : (reference asName column).toList = asName.toList ++ '.' :: column.toList := by
    simp [reference]
  have hbefore : ∀ c ∈ asName.toList, (c != '.') = true := by
    intro c hc
    refine bne_iff_ne.2 ?_
    rintro rfl
    exact h hc
  have htake : (asName.toList ++ '.' :: column.toList).takeWhile (· != '.') = asName.toList := by
    rw [List.takeWhile_append_of_pos hbefore, List.takeWhile_cons_of_neg (by simp), List.append_nil]
  have hdrop : (asName.toList ++ '.' :: column.toList).dropWhile (· != '.')
      = '.' :: column.toList := by
    rw [List.dropWhile_append_of_pos hbefore, List.dropWhile_cons_of_neg (by simp)]
  simp only [referenceTokens, hchars, hdrop, htake, String.ofList_toList]

theorem referenceNames_reference {asName column : String} (h : '.' ∉ asName.toList) :
    referenceNames (reference asName column) = [asName, column] := by
  rw [referenceNames, referenceTokens_reference h]
  rfl

end Sql

/-! ## Names -/

namespace Naming

/-- A name is one that the database keeps whole. -/
def Fits (name : String) : Prop := name.utf8ByteSize ≤ 63

instance : DecidablePred Fits := fun name => inferInstanceAs (Decidable (name.utf8ByteSize ≤ 63))

theorem fits_abbreviate (ident : String) : Fits (abbreviate {} ident) := by
  rw [Fits, abbreviate, Text.utf8ByteSize_ofList]
  exact byteLength_abbreviateChars_le ident.toList

/-- Every name that is built for the database fits. -/
theorem fits_bounded (ident : List Char) : Fits (bounded ident) := by
  rw [Fits, bounded, Text.utf8ByteSize_ofList]
  exact byteLength_abbreviateChars_le ident

theorem fits_tableName (name : String) : Fits (tableName name) := fits_bounded _

theorem fits_columnName (field : String) : Fits (columnName field) := fits_bounded _

theorem fits_referenceColumnName (model field : String) : Fits (referenceColumnName model field) :=
  fits_bounded _

end Naming

namespace Lowering

open Spec Sql Settings Naming

/-! ## Tables -/

theorem fits_otherColumn {first second : String} (h : Fits second) :
    Fits (otherColumn first second) := by
  unfold otherColumn
  split
  · exact fits_abbreviate _
  · exact h

theorem fits_cascadingKey {schema table column refTable refColumn : String} (ht : Fits table)
    (hc : Fits column) (hrt : Fits refTable) (hrc : Fits refColumn) :
    ∀ name ∈ (cascadingKey schema table column refTable refColumn).identifiers, Fits name := by
  have hname : Fits (foreignKeyName table [column]) := fits_bounded _
  simp [ForeignKey.identifiers, cascadingKey, hname, ht, hc, hrt, hrc]

theorem fits_singleIndex {schema table column : String} (ht : Fits table) (hc : Fits column) :
    ∀ name ∈ (singleIndex schema table column).identifiers, Fits name := by
  have hname : Fits (indexName table [column]) := fits_bounded _
  simp [Index.identifiers, singleIndex, hname, ht, hc]

theorem fits_uniqueOver {table : String} {columns : List String}
    (hc : ∀ column ∈ columns, Fits column) :
    ∀ name ∈ (uniqueOver table columns).identifiers, Fits name :=
  List.forall_mem_cons.2 ⟨fits_bounded _, hc⟩

/-- The identifiers of a table fit if those of its parts do. -/
theorem fits_table {t : Table} (hname : Fits t.name) (hcolumns : ∀ c ∈ t.columns, Fits c.name)
    (hkeys : ∀ k ∈ t.foreignKeys, ∀ name ∈ k.identifiers, Fits name)
    (hindices : ∀ i ∈ t.indices, ∀ name ∈ i.identifiers, Fits name)
    (huniques : ∀ u ∈ t.uniques, ∀ name ∈ u.identifiers, Fits name) :
    ∀ name ∈ t.identifiers, Fits name := by
  simp only [Table.identifiers, List.forall_mem_cons, List.forall_mem_append, List.forall_mem_map,
    List.forall_mem_flatMap]
  exact ⟨hname, ⟨⟨hcolumns, hkeys⟩, hindices⟩, huniques⟩

theorem fits_tableOf (s : ModelSettings) (m : Model) (ones : List Link) :
    ∀ name ∈ (tableOf s m ones).identifiers, Fits name := by
  have htable : Fits (tableName m.name) := fits_tableName _
  have hlink (l : Link) : Fits l.column.name := fits_referenceColumnName _ _
  refine fits_table htable ?_ ?_ ?_ ?_
  · intro c hc
    rcases List.mem_append.1 hc with hc | hc
    · obtain ⟨entry, -, rfl⟩ := List.mem_map.1 hc
      rw [name_ownColumn]
      exact fits_columnName _
    · obtain ⟨l, -, rfl⟩ := List.mem_map.1 hc
      exact hlink l
  · intro k hk
    obtain ⟨l, -, rfl⟩ := List.mem_map.1 hk
    exact fits_cascadingKey htable (hlink l) (fits_tableName _) (fits_columnName _)
  · intro i hi
    obtain ⟨l, -, rfl⟩ := List.mem_map.1 hi
    exact fits_singleIndex htable (hlink l)
  · intro u hu
    obtain ⟨entry, -, rfl⟩ := List.mem_map.1 hu
    refine fits_uniqueOver ?_
    intro column hcolumn
    obtain ⟨field, -, rfl⟩ := List.mem_map.1 hcolumn
    exact fits_columnName _

theorem fits_junctionOf (s : ModelSettings) (x : Referent) (l : Link) :
    ∀ name ∈ (junctionOf s x l).identifiers, Fits name := by
  have htable : Fits (junctionTableName x.model.name l.relation.target) := fits_bounded _
  have hsource : Fits x.side.name := fits_referenceColumnName _ _
  have htarget : Fits (l.side x).name := by
    rw [Link.name_side]
    exact fits_otherColumn (fits_referenceColumnName _ _)
  have hid : Fits "id" := by decide
  refine fits_table htable ?_ ?_ ?_ ?_
  · simp [junctionOf, Column.key, hid, hsource, htarget]
  · simp only [junctionOf, List.forall_mem_cons, List.not_mem_nil, false_implies,
      implies_true, and_true]
    exact ⟨fits_cascadingKey htable hsource (fits_tableName _) (fits_columnName _),
      fits_cascadingKey htable htarget (fits_tableName _) (fits_columnName _)⟩
  · simp only [junctionOf, List.forall_mem_cons, List.not_mem_nil, false_implies,
      implies_true, and_true]
    exact ⟨fits_singleIndex htable hsource, fits_singleIndex htable htarget⟩
  · simp only [junctionOf, List.forall_mem_singleton]
    exact fits_uniqueOver (by simp [hsource, htarget])

theorem compileModel_fits {s : ModelSettings} {r : Registry} {m : Model} {ts : ModelTables}
    (h : compileModel s r m = .ok ts) :
    ∀ t ∈ ts.table :: ts.junctions, ∀ name ∈ t.identifiers, Fits name := by
  obtain ⟨ones, many, hl⟩ := compileModel_ok h
  intro t ht
  rcases List.mem_cons.1 ht with rfl | ht
  · rw [hl.table_eq]
    exact fits_tableOf s m ones
  · obtain ⟨l, -, x, -, -, rfl⟩ := hl.exists_junctionOf ht
    exact fits_junctionOf s x l

theorem compileEnumeration_fits {s : EnumerationSettings} {e : Enumeration} {l : LookupTable}
    (h : compileEnumeration s e = .ok l) :
    (∀ name ∈ l.table.identifiers, Fits name) ∧ ∀ name ∈ l.seed.identifiers, Fits name := by
  have htable : Fits (tableName e.name) := fits_tableName _
  have hcolumns : Fits "id" ∧ Fits "key" ∧ Fits "value" := by decide
  obtain ⟨-, -, hl⟩ := bind_eq_ok.1 h
  obtain rfl := pure_eq_ok.1 hl
  constructor
  · refine fits_table htable ?_ ?_ ?_ ?_
    · simpa [entryTable, Column.key, Column.required] using hcolumns
    · simp [entryTable]
    · simp [entryTable]
    · have hname : Fits (uniqueName (tableName e.name) ["key"]) := fits_bounded _
      simp [entryTable, UniqueConstraint.identifiers, hname, hcolumns.2.1]
  · simp [Seed.identifiers, entrySeed, htable, hcolumns]

theorem compileStructures_fits {s : StructureSettings} {t : Table}
    (h : compileStructures s = .ok (some t)) : ∀ name ∈ t.identifiers, Fits name := by
  have htable : Fits structuresTable := by decide
  have hindex (column : String) (method : Option IndexMethod) (hc : Fits column) :
      ∀ name ∈ (structureIndex s.schema column method).identifiers, Fits name := by
    have hname : Fits (indexName structuresTable [column]) := fits_bounded _
    simp [Index.identifiers, structureIndex, hname, htable, hc]
  unfold compileStructures at h
  split at h
  · obtain ⟨-, -, ht⟩ := bind_eq_ok.1 h
    obtain rfl := Option.some.inj (pure_eq_ok.1 ht)
    refine fits_table htable ?_ ?_ ?_ ?_
    · simp only [structureTable, timeColumn, Column.key, Column.required, List.forall_mem_cons]
      decide
    · simp [structureTable]
    · simp only [structureTable, List.forall_mem_cons, List.not_mem_nil, false_implies,
        implies_true, and_true]
      exact ⟨hindex "type" _ (by decide), hindex "data" _ (by decide)⟩
    · simp [structureTable]
  · cases h

/-! ## Views -/

theorem fits_viewColumn (asName terminal field : String) :
    ∀ name ∈ (viewColumn asName terminal field).identifiers, Fits name := by
  have hname : Fits (columnName field) := fits_columnName field
  simp only [ViewColumn.identifiers, viewColumn]
  split <;> simp [hname]

theorem fits_joinAlias {rootTable table hop : String} (h : Fits table) :
    Fits (joinAlias rootTable table hop) := by
  unfold joinAlias
  split
  · exact fits_bounded _
  · exact h

theorem dotless_joinAlias {rootTable table hop : String} (h : '.' ∉ table.toList) :
    '.' ∉ (joinAlias rootTable table hop).toList := by
  unfold joinAlias
  split
  · exact notMem_bounded (by decide) (notMem_join (by decide) h hop)
  · exact h

namespace Viewed

variable {s : EntitySettings} {r : Registry} {e : Entity} {root : Model} {trips : List Trip}
  {v : View}

/-- The alias of a stop fits, and has no dot in it. -/
theorem fits_asName (hv : Viewed s r e root trips v) {x : Stop} (hx : x ∈ stops root trips) :
    Fits x.asName ∧ '.' ∉ x.asName.toList := by
  rcases mem_stops.1 hx with rfl | ⟨t, ht, h, hh, rfl⟩
  · exact ⟨fits_tableName _, notMem_tableName (by decide) _⟩
  · obtain ⟨-, -, hname⟩ := route?_mem (hv.along t ht).hops_eq hh
    rw [hname]
    exact ⟨fits_joinAlias (fits_tableName _), dotless_joinAlias (notMem_tableName (by decide) _)⟩

end Viewed

theorem compileEntity_fits {s : EntitySettings} {r : Registry} {e : Entity} {v : View}
    (h : compileEntity s r e = .ok v) : ∀ name ∈ v.identifiers, Fits name := by
  have hname : Fits v.name := by
    rw [(compileEntity_named h).2]
    exact fits_bounded _
  obtain ⟨root, trips, hv⟩ := compileEntity_ok h
  have hfrom : Fits v.fromTable := by
    rw [hv.fromTable_eq]
    exact fits_tableName _
  have halias : Fits v.fromAlias := by
    rw [hv.fromAlias_eq]
    exact fits_tableName _
  simp only [View.identifiers, List.forall_mem_cons, List.forall_mem_append,
    List.forall_mem_flatMap]
  refine ⟨hname, hfrom, halias, ⟨?_, ?_⟩, ?_⟩
  · intro c hc
    rw [hv.columns_eq] at hc
    obtain ⟨t, -, rfl⟩ := List.mem_map.1 hc
    exact fits_viewColumn _ _ _
  · intro j hj
    obtain ⟨x, hx, hasName, htable⟩ :=
      hv.exists_stop_of_denotes (.inr ⟨j, hj, rfl, rfl⟩)
    have hfits : Fits j.table := by
      rw [(Prod.mk.inj htable).2]
      exact fits_tableName _
    simp [Join.identifiers, hfits, ← hasName, (hv.fits_asName hx).1]
  · intro text htext
    obtain ⟨x, hx, field, -, -, rfl⟩ := hv.exists_of_mem_references htext
    obtain ⟨hfits, hdot⟩ := hv.fits_asName hx
    rw [referenceNames_reference hdot]
    simp [hfits, fits_columnName]

/-- All identifiers of what models, enumerations, entities and structures compile to are at most 63
bytes long. -/
theorem identifiers_fit (r : Registry) :
    (∀ s m ts, compileModel s r m = .ok ts →
      ∀ t ∈ ts.table :: ts.junctions, ∀ name ∈ t.identifiers, Fits name)
    ∧ (∀ s e l, compileEnumeration s e = .ok l →
      (∀ name ∈ l.table.identifiers, Fits name) ∧ ∀ name ∈ l.seed.identifiers, Fits name)
    ∧ (∀ s e v, compileEntity s r e = .ok v → ∀ name ∈ v.identifiers, Fits name)
    ∧ ∀ s t, compileStructures s = .ok (some t) → ∀ name ∈ t.identifiers, Fits name :=
  ⟨fun _ _ _ h => compileModel_fits h, fun _ _ _ h => compileEnumeration_fits h,
    fun _ _ _ h => compileEntity_fits h, fun _ _ h => compileStructures_fits h⟩

namespace LongName

/-- Eight words of two letters with four bytes each. -/
def letters : Enumeration :=
  { name := "𐐀𐐁_𐐂𐐃_𐐄𐐅_𐐆𐐇_𐐀𐐁_𐐂𐐃_𐐄𐐅_𐐆𐐇"
    type := .string
    entries := NameMap.ofList [("Alpha", .string "a")] }

/-- A path back to the table where it begins, which needs an alias of its own. -/
def entity : Entity :=
  { name := "Heir", fields := NameMap.ofList [("Parent", { path := name ++ ".Parent.ID" })] }

def entitySettings : EntitySettings :=
  { suffix := "_of_all_those_people_whom_nobody_ever_asked_for_anything_at_all" }

theorem evaluates_letters : (compileEnumeration {} letters).toOption.isSome = true := by
  decide +kernel

theorem evaluates_entity :
    (compileEntity entitySettings registry entity).toOption.isSome = true := by
  decide +kernel

end LongName

/-- Names that have to be cut, of each kind of unit. -/
theorem identifiers_fit_longName : ∃ ts l v,
    compileModel {} LongName.registry LongName.model = .ok ts
    ∧ compileEnumeration {} LongName.letters = .ok l
    ∧ compileEntity LongName.entitySettings LongName.registry LongName.entity = .ok v
    ∧ compileStructures { persistent := true } = .ok (some (structureTable { persistent := true }))
    ∧ (∀ t ∈ ts.table :: ts.junctions, ∀ name ∈ t.identifiers, Fits name)
    ∧ ((∀ name ∈ l.table.identifiers, Fits name) ∧ ∀ name ∈ l.seed.identifiers, Fits name)
    ∧ (∀ name ∈ v.identifiers, Fits name)
    ∧ ∀ name ∈ (structureTable { persistent := true }).identifiers, Fits name := by
  obtain ⟨ts, hts, -⟩ := LongName.exists_ok
  obtain ⟨l, hl⟩ := Option.isSome_iff_exists.1 LongName.evaluates_letters
  obtain ⟨v, hv⟩ := Option.isSome_iff_exists.1 LongName.evaluates_entity
  rw [toOption_eq_some] at hl hv
  have hstructures : compileStructures { persistent := true }
      = .ok (some (structureTable { persistent := true })) := by decide +kernel
  obtain ⟨hmodel, henumeration, hentity, hstructure⟩ := identifiers_fit LongName.registry
  exact ⟨ts, l, v, hts, hl, hv, hstructures, hmodel _ _ _ hts, henumeration _ _ _ hl,
    hentity _ _ _ hv, hstructure _ _ hstructures⟩

end Lowering

end Schemata
