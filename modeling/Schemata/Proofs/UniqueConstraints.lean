import Schemata.Proofs.Compilable

/-!
# Unique constraints

An identifier of a model besides the primary one becomes a unique constraint, named after the table
and the columns. An identifier is any list of fields of the model, so that a constraint may have no
column, or one column twice. In a name each column stands behind a low line, and may have low lines
itself, so that two constraints of a table may have one name: `a` and `b` together read like `a_b`.
The constraint of a joining table is over its two sides, which differ.

## Main definitions

* `UniqueConstraint.Usable`: a constraint over some columns, none of them twice.
* `Naming.fullName`: the name of a constraint before it is abbreviated.
* `Naming.lined`: the columns as they stand in it.
* `Alternate`: the identifiers of a model besides the primary one.

## Main statements

* `fullName_inj`: names are the same exactly if the columns read the same.
* `lined_inj`: columns whose names have no low lines are read off.
* `compileModel_uniques`: when the constraints of a model can be used.
* `not_nodup_overlapping`: a model with two constraints of one name.
-/

namespace Schemata.Naming

open Text

/-! ## Names of constraints -/

/-- A name made of a role, a table and columns of it, before it is abbreviated. -/
def fullName (role table : String) (columns : List String) : List Char :=
  joinSegments ((role :: table :: columns).map String.toList)

/-- Columns as they stand at the end of a name, each behind a low line. -/
def lined (columns : List String) : List Char := columns.flatMap fun c => '_' :: c.toList

theorem joinSegments_cons_eq_append (part : List Char) (parts : List (List Char)) :
    joinSegments (part :: parts) = part ++ parts.flatMap ('_' :: ·) := by
  induction parts generalizing part with
  | nil => simp
  | cons next parts ih =>
    rw [joinSegments_cons part (List.cons_ne_nil _ _), ih, List.flatMap_cons, List.cons_append]

theorem fullName_eq (role table : String) (columns : List String) :
    fullName role table columns = role.toList ++ '_' :: (table.toList ++ lined columns) := by
  simp [fullName, joinSegments_cons_eq_append, lined, List.flatMap_map]

/-- Names of one table are the same exactly if the columns read the same. -/
theorem fullName_inj {role table : String} {columns columns' : List String} :
    fullName role table columns = fullName role table columns'
      ↔ lined columns = lined columns' := by
  simp [fullName_eq]

/-- Names that are not abbreviated are the same exactly if the columns read the same. -/
theorem uniqueName_eq_iff {table : String} {columns columns' : List String}
    (h : byteLength (fullName "uk" table columns) ≤ identifierLimit)
    (h' : byteLength (fullName "uk" table columns') ≤ identifierLimit) :
    uniqueName table columns = uniqueName table columns' ↔ lined columns = lined columns' := by
  have hname {cs : List String} (hcs : byteLength (fullName "uk" table cs) ≤ identifierLimit) :
      uniqueName table cs = String.ofList (fullName "uk" table cs) :=
    congrArg String.ofList (abbreviateChars_of_le hcs)
  rw [hname h, hname h', String.ofList_inj, fullName_inj]

/-- Where no column has a low line, low lines show where each begins. -/
theorem segments_append_lined {first : List Char} {columns : List String} (hfirst : '_' ∉ first)
    (h : ∀ c ∈ columns, '_' ∉ c.toList) :
    segments (first ++ lined columns) = first :: columns.map String.toList := by
  induction columns generalizing first with
  | nil => simp [lined, segments_of_notMem hfirst]
  | cons c columns ih =>
    obtain ⟨hc, hcolumns⟩ := List.forall_mem_cons.1 h
    have hlined : first ++ lined (c :: columns) = first ++ '_' :: (c.toList ++ lined columns) := by
      simp [lined]
    rw [hlined, segments_append_line, segments_of_notMem hfirst, ih hc hcolumns]
    rfl

theorem lined_inj {columns columns' : List String} (h : ∀ c ∈ columns, '_' ∉ c.toList)
    (h' : ∀ c ∈ columns', '_' ∉ c.toList) (heq : lined columns = lined columns') :
    columns = columns' := by
  have hsegments := congrArg segments heq
  rw [← List.nil_append (lined columns), segments_append_lined List.not_mem_nil h,
    ← List.nil_append (lined columns'), segments_append_lined List.not_mem_nil h'] at hsegments
  exact List.map_injective_iff.2 (fun _ _ => String.toList_inj.1) (List.cons.inj hsegments).2

end Schemata.Naming

namespace Schemata.Sql

/-- A unique constraint is over some columns, none of them twice. -/
def UniqueConstraint.Usable (u : UniqueConstraint) : Prop := u.columns ≠ [] ∧ u.columns.Nodup

/-- The unique constraints of a table have names within the limit, before any is abbreviated. -/
def Table.UniquesInFull (t : Table) : Prop :=
  ∀ u ∈ t.uniques,
    Text.byteLength (Naming.fullName "uk" t.name u.columns) ≤ Naming.identifierLimit

instance (t : Table) : Decidable t.UniquesInFull :=
  inferInstanceAs (Decidable (∀ u ∈ t.uniques, _))

end Schemata.Sql

namespace Schemata.Lowering

open Spec Sql Settings

/-! ## Identifiers -/

/-- An identifier of a model besides the primary one. -/
def Alternate (m : Model) (name : String) (fields : List String) : Prop :=
  name ≠ primary ∧ m.identifiers.get? name = some fields

theorem mem_uniqueConstraints_iff {m : Model} {table : String} {u : UniqueConstraint} :
    u ∈ uniqueConstraints m table ↔ ∃ name fields, Alternate m name fields
      ∧ uniqueOver table (fields.map Naming.columnName) = u := by
  simp [uniqueConstraints, Alternate, NameMap.mem_entries_iff, and_comm]

/-- Of fields with columns of distinct names, the constraint can be used if there are some and none
is listed twice. -/
theorem usable_uniqueOver_iff {table : String} {fields : List String}
    (hinj : ∀ f ∈ fields, ∀ g ∈ fields, Naming.columnName f = Naming.columnName g → f = g) :
    (uniqueOver table (fields.map Naming.columnName)).Usable ↔ fields ≠ [] ∧ fields.Nodup := by
  have hnodup : (fields.map Naming.columnName).Nodup ↔ fields.Nodup := by
    refine ⟨List.Nodup.of_map _, fun h => h.map_on fun f hf g hg => hinj f hf g hg⟩
  simp [UniqueConstraint.Usable, uniqueOver, hnodup]

/-- The constraints of a table have distinct names exactly if no two identifiers read the same. -/
theorem nodup_uniqueConstraints_iff {m : Model} {table : String}
    (hfull : ∀ u ∈ uniqueConstraints m table,
      Text.byteLength (Naming.fullName "uk" table u.columns) ≤ Naming.identifierLimit) :
    ((uniqueConstraints m table).map (·.name)).Nodup ↔ ∀ i f j g, Alternate m i f →
      Alternate m j g → Naming.lined (f.map Naming.columnName)
        = Naming.lined (g.map Naming.columnName) → i = j := by
  have hwithin {name : String} {fields : List String} (ha : Alternate m name fields) :
      Text.byteLength (Naming.fullName "uk" table (fields.map Naming.columnName))
        ≤ Naming.identifierLimit := by
    have hmem : uniqueOver table (fields.map Naming.columnName) ∈ uniqueConstraints m table :=
      mem_uniqueConstraints_iff.2 ⟨name, fields, ha, rfl⟩
    simpa only [uniqueOver] using hfull _ hmem
  have hname {i j : String} {f g : List String} (hi : Alternate m i f) (hj : Alternate m j g) :=
    Naming.uniqueName_eq_iff (hwithin hi) (hwithin hj)
  have hentry {name : String} {fields : List String} :
      (name, fields) ∈ m.identifiers.entries.filter (·.1 != primary)
        ↔ Alternate m name fields := by
    simp [Alternate, NameMap.mem_entries_iff, and_comm]
  have hentries : (m.identifiers.entries.filter (·.1 != primary)).Nodup :=
    (List.Nodup.of_map _ m.identifiers.nodup_names).filter _
  rw [uniqueConstraints, List.map_map, List.nodup_map_iff_inj_on hentries]
  constructor
  · intro hinj i f j g hi hj hlined
    have heq := hinj (i, f) (hentry.2 hi) (j, g) (hentry.2 hj) ((hname hi hj).2 hlined)
    exact congrArg Prod.fst heq
  · intro hdistinct e he e' he' heq
    have hi := hentry.1 he
    have hj := hentry.1 he'
    have hsame := hdistinct _ _ _ _ hi hj ((hname hi hj).1 heq)
    refine Prod.ext hsame (Option.some.inj ?_)
    rw [← hi.2, ← hj.2, hsame]

/-- A joining table has one constraint, over its two sides. -/
theorem usable_uniques_junctionOf (s : ModelSettings) (x : Referent) (l : Link) :
    ((junctionOf s x l).uniques.map (·.name)).Nodup
    ∧ ∀ u ∈ (junctionOf s x l).uniques, u.Usable := by
  have hsides : x.side.name ≠ (l.side x).name := by
    rw [Link.name_side]
    exact (otherColumn_ne (byteLength_side x)).symm
  simp only [junctionOf, List.map_singleton, List.nodup_singleton, List.forall_mem_singleton,
    true_and]
  simp [UniqueConstraint.Usable, uniqueOver, hsides]

/-! ## All tables of a model -/

namespace Compilable

variable {s : ModelSettings} {r : Registry} {m : Model}

theorem mem_names (hc : Compilable s r m) {name : String} {fields : List String}
    (ha : Alternate m name fields) : ∀ f ∈ fields, f ∈ m.fields.names := by
  intro f hf
  obtain ⟨field, hfield⟩ := hc.declared name fields ha.2 f hf
  exact NameMap.mem_names_iff.2 ⟨field, hfield⟩

theorem columnName_inj (hc : Compilable s r m) : ∀ f ∈ m.fields.names, ∀ g ∈ m.fields.names,
    Naming.columnName f = Naming.columnName g → f = g := by
  intro f hf g hg heq
  exact List.inj_on_of_nodup_map (List.nodup_append.1 hc.distinct).1 hf hg heq

/-- The constraints of a model that compiles can be used if its identifiers can. -/
theorem usable_iff (hc : Compilable s r m) (table : String) :
    (∀ u ∈ uniqueConstraints m table, u.Usable) ↔
      ∀ name fields, Alternate m name fields → fields ≠ [] ∧ fields.Nodup := by
  have hiff {name : String} {fields : List String} (ha : Alternate m name fields) :
      (uniqueOver table (fields.map Naming.columnName)).Usable ↔ fields ≠ [] ∧ fields.Nodup :=
    usable_uniqueOver_iff fun f hf g hg =>
      hc.columnName_inj f (hc.mem_names ha f hf) g (hc.mem_names ha g hg)
  constructor
  · intro husable name fields ha
    exact (hiff ha).1 (husable _ (mem_uniqueConstraints_iff.2 ⟨name, fields, ha, rfl⟩))
  · intro hproper u hu
    obtain ⟨name, fields, ha, rfl⟩ := mem_uniqueConstraints_iff.1 hu
    exact (hiff ha).2 (hproper name fields ha)

/-- Where columns have no low lines in their names, identifiers that read the same are the same. -/
theorem fields_eq (hc : Compilable s r m)
    (hplain : ∀ f ∈ m.fields.names, '_' ∉ (Naming.columnName f).toList) {i j : String}
    {f g : List String} (hi : Alternate m i f) (hj : Alternate m j g)
    (h : Naming.lined (f.map Naming.columnName) = Naming.lined (g.map Naming.columnName)) :
    f = g := by
  have hcolumns {name : String} {fields : List String} (ha : Alternate m name fields) :
      ∀ c ∈ fields.map Naming.columnName, '_' ∉ c.toList := by
    intro c hmem
    obtain ⟨field, hfield, rfl⟩ := List.mem_map.1 hmem
    exact hplain field (hc.mem_names ha field hfield)
  refine eq_of_map_eq (Naming.lined_inj (hcolumns hi) (hcolumns hj) h) ?_
  intro a ha b hb
  exact hc.columnName_inj a (hc.mem_names hi a ha) b (hc.mem_names hj b hb)

end Compilable

/-- Of a model that compiles, the unique constraints are over some columns, none of them twice,
exactly if each identifier besides the primary one lists some fields, none of them twice. Where none
of their names is abbreviated, these are distinct exactly if no two identifiers read the same with
low lines before each column; if no column of a field has a low line in its name, that is if no two
identifiers list the same fields. The constraint of a joining table can always be used. -/
theorem compileModel_uniques {s : ModelSettings} {r : Registry} {m : Model} {ts : ModelTables}
    (h : compileModel s r m = .ok ts) :
    ((∀ u ∈ ts.table.uniques, u.Usable) ↔
      ∀ name fields, Alternate m name fields → fields ≠ [] ∧ fields.Nodup)
    ∧ (ts.table.UniquesInFull →
      ((ts.table.uniques.map (·.name)).Nodup ↔ ∀ i f j g, Alternate m i f → Alternate m j g →
        Naming.lined (f.map Naming.columnName) = Naming.lined (g.map Naming.columnName) → i = j)
      ∧ ((∀ f ∈ m.fields.names, '_' ∉ (Naming.columnName f).toList) →
        ((ts.table.uniques.map (·.name)).Nodup ↔
          ∀ i j f, Alternate m i f → Alternate m j f → i = j)))
    ∧ ∀ j ∈ ts.junctions, (j.uniques.map (·.name)).Nodup ∧ ∀ u ∈ j.uniques, u.Usable := by
  obtain ⟨ones, many, hl⟩ := compileModel_ok h
  have hc := compilable_of_ok h
  have huniques : ts.table.uniques = uniqueConstraints m ts.table.name := by
    rw [hl.table_eq]
    rfl
  refine ⟨?_, fun hfull => ?_, fun j hj => ?_⟩
  · rw [huniques]
    exact hc.usable_iff ts.table.name
  · rw [Table.UniquesInFull, huniques] at hfull
    have hnames := nodup_uniqueConstraints_iff hfull
    rw [← huniques] at hnames
    refine ⟨hnames, fun hplain => hnames.trans ⟨?_, ?_⟩⟩
    · intro hdistinct i j f hi hj
      exact hdistinct i f j f hi hj rfl
    · intro hdistinct i f j g hi hj hlined
      obtain rfl := hc.fields_eq hplain hi hj hlined
      exact hdistinct i j f hi hj
  · obtain ⟨l, -, x, -, -, rfl⟩ := hl.exists_junctionOf hj
    exact usable_uniques_junctionOf s x l

namespace Overlapping

/-- Two fields, and one whose name is theirs with a low line in between. -/
def model : Model :=
  { name := "Person"
    fields := NameMap.ofList [("ID", { type := .autoIncrement }), ("a", { type := .string }),
      ("a_b", { type := .string }), ("b", { type := .string })]
    identifiers := NameMap.ofList [(primary, ["ID"]), ("pair", ["a", "b"]), ("whole", ["a_b"])] }

theorem evaluates : ∃ ts, compileModel {} {} model = .ok ts ∧ ts.table.UniquesInFull := by
  have heval : (compileModel {} {} model).toOption.any
      (fun ts => decide ts.table.UniquesInFull) = true := by
    decide +kernel
  cases hts : compileModel {} {} model with
  | error e => simp [hts, Except.toOption] at heval
  | ok ts => exact ⟨ts, rfl, by simpa [hts, Except.toOption] using heval⟩

end Overlapping

/-- A table with two unique constraints of one name, neither of which is abbreviated. -/
theorem not_nodup_overlapping : ∃ ts, compileModel {} {} Overlapping.model = .ok ts
    ∧ ts.table.UniquesInFull ∧ ¬(ts.table.uniques.map (·.name)).Nodup := by
  obtain ⟨ts, hts, hfull⟩ := Overlapping.evaluates
  refine ⟨ts, hts, hfull, fun hnodup => ?_⟩
  have hpair : Alternate Overlapping.model "pair" ["a", "b"] := ⟨by decide, by decide⟩
  have hwhole : Alternate Overlapping.model "whole" ["a_b"] := ⟨by decide, by decide⟩
  have hsame := ((compileModel_uniques hts).2.1 hfull).1.1 hnodup _ _ _ _ hpair hwhole
    (by decide +kernel)
  exact absurd hsame (by decide)

end Schemata.Lowering
