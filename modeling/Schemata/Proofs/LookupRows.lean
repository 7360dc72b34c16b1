import Schemata.Lowering.LookupTable
import Schemata.Proofs.Decimal.Layout
import Schemata.Proofs.NameMap
import Schemata.Proofs.Success
import Schemata.Proofs.Text.ByteOrder

/-!
# The rows of an enumeration fit its table

The table of an enumeration comes with the rows that fill it. Whether a database takes them is said
by `Table.insertRow`, which stores one row or refuses it: a column that must have a value may not be
left out, and rows may not agree on columns whose values occur once. Entries have distinct keys, so
every row is stored. The entries are listed in no particular order; the rows stand in the order of
their keys.

Which enumerations have such a table is decided by four conditions, checked one after the other. Of
several entries with values of the wrong type, the one with the least key is reported.

## Main definitions

* `Table.insertRow`, `Table.insertAll`: rows that are stored one after the other.
* `Literal.Acceptable`: the values that a declared type allows.
* `Literal.Spelled`, `IsRow`: the text of a literal, and the row of an entry.
* `Filled`: what holds of the table of an enumeration and its rows.

## Main statements

* `insertRow_entryTable`, `insertAll_entrySeed`: one row is stored, and all rows are.
* `compileEnumeration_fills`: which enumerations have a table, what its rows are, and which entry is
  reported.
-/

namespace Schemata.Sql

/-! ## Rows that are stored -/

/-- What a stored row holds in a column. -/
inductive Cell where
  | null
  | text (value : String)
  /-- The number of the row in a column that counts. -/
  | count (n : Nat)
  deriving DecidableEq, Repr

/-- A row as it is stored: the cell of each column, under its name. -/
abbrev Record := List (String × Cell)

/-- Why a row is not stored. -/
inductive RowError where
  /-- The columns that are named repeat or are unknown, or the values are not as many. -/
  | malformed
  /-- A column is left to its expression, which is not evaluated here. -/
  | unevaluated (column : String)
  /-- A column that must have a value has none. -/
  | missing (column : String)
  /-- A stored row has the same values in columns whose values occur once. -/
  | repeated (columns : List String)
  deriving DecidableEq, Repr

/-- Whether a column numbers the rows. -/
def Column.counts (c : Column) : Bool := c.type == .serial || c.type == .bigSerial

/-- The cell of a column in the row of a number: the value that is given, or else the number. -/
def Column.cell (c : Column) (n : Nat) (given : List (String × String)) : Cell :=
  match given.lookup c.name with
  | some value => .text value
  | none => if c.counts then .count n else .null

/-- Two rows have the same values in columns. No value is not the same as no value. -/
def Record.agrees (columns : List String) (a b : Record) : Bool :=
  columns.all fun name => a.lookup name == b.lookup name && (a.lookup name).any (· != .null)

namespace Table

/-- The columns whose values together occur once. -/
def distinctColumns (t : Table) : List (List String) :=
  [t.primaryKey].filter (!·.isEmpty) ++ t.uniques.map (·.columns)

/-- The row of a number with the given values. -/
def recordOf (t : Table) (n : Nat) (given : List (String × String)) : Record :=
  t.columns.map fun c => (c.name, c.cell n given)

/-- The names of a row are those of columns, and each has a value. -/
def Matches (t : Table) (columns row : List String) : Prop :=
  columns.Nodup ∧ columns ⊆ t.columns.map (·.name) ∧ row.length = columns.length

instance (t : Table) (columns row : List String) : Decidable (t.Matches columns row) :=
  inferInstanceAs (Decidable (_ ∧ (∀ name ∈ columns, _) ∧ _))

/-- Store a row after the others, which are numbered from one. -/
def insertRow (t : Table) (columns : List String) (stored : List Record) (row : List String) :
    Except RowError (List Record) :=
  let record := t.recordOf (stored.length + 1) (columns.zip row)
  if ¬ t.Matches columns row then .error .malformed
  else match t.columns.find? fun c => c.fallback.isSome && !columns.contains c.name with
  | some c => .error (.unevaluated c.name)
  | none => match t.columns.find? fun c => !c.nullable && record.lookup c.name == some .null with
    | some c => .error (.missing c.name)
    | none => match t.distinctColumns.find? fun names => stored.any (record.agrees names) with
      | some names => .error (.repeated names)
      | none => .ok (stored ++ [record])

/-- Store the rows of a seed in a table that has none. -/
def insertAll (t : Table) (s : Seed) : Except RowError (List Record) :=
  s.rows.foldlM (t.insertRow s.columns) []

-- a key that is stored already, and a value that is left out
example :
    let t : Table := {
      schema := "app"
      name := "roles"
      columns := [.key { name := "id", type := .serial },
        .required { name := "key", type := .text }]
      uniques := [⟨"uk_roles_key", ["key"]⟩] }
    t.insertAll ⟨"app", "roles", ["key"], [["Admin"], ["Admin"]]⟩ = .error (.repeated ["key"])
      ∧ t.insertAll ⟨"app", "roles", [], [[]]⟩ = .error (.missing "key") := by
  decide

end Table

end Schemata.Sql

namespace Schemata.Spec

/-- The values that a declared type allows: those of the type, and integers also for floats. -/
inductive Literal.Acceptable : Literal → LiteralType → Prop
  | string (s : String) : Acceptable (.string s) .string
  | integer (n : Int) : Acceptable (.integer n) .integer
  | float (x : Decimal.Double) : Acceptable (.float x) .float
  | integerAsFloat (n : Int) : Acceptable (.integer n) .float

theorem Literal.hasType_iff {v : Literal} {type : LiteralType} :
    v.hasType type = true ↔ v.Acceptable type := by
  constructor
  · intro h
    unfold Literal.hasType at h
    split at h
    · exact .string _
    · exact .integer _
    · exact .float _
    · exact .integerAsFloat _
    · cases h
  · rintro (_ | _ | _ | _) <;> rfl

/-- The text of a literal: a string itself, the digits of an integer after its sign, and a shortest
decimal of a float. -/
inductive Literal.Spelled : Literal → String → Prop
  | string (s : String) : Spelled (.string s) s
  | integer {n : Int} {text : String} (h : Decimal.SignedNumeral text.toList n) :
      Spelled (.integer n) text
  | float {x : Decimal.Double} {text : String} (h : x.Text text.toList) : Spelled (.float x) text

theorem Literal.spelled_text (v : Literal) : v.Spelled v.text := by
  cases v with
  | integer n => exact .integer (Decimal.signedNumeral_toString n)
  | float x => exact .float x.text_write
  | string s => exact .string s

end Schemata.Spec

namespace Schemata.Lowering

open Spec Sql Settings

/-! ## One row after the other -/

/-- The row of an entry: its key and its literal. -/
def entryRow (entry : String × Literal) : List String := [entry.1, entry.2.text]

/-- The row of an entry as it is stored after `n` others. -/
def entryRecord (n : Nat) (entry : String × Literal) : Record :=
  [("id", .count (n + 1)), ("key", .text entry.1), ("value", .text entry.2.text)]

theorem recordOf_entryTable (schema name : String) (n : Nat) (entry : String × Literal) :
    (entryTable schema name).recordOf (n + 1) (["key", "value"].zip (entryRow entry))
      = entryRecord n entry := rfl

/-- Rows of entries agree on their numbers or on their keys only if these are the same. -/
theorem agrees_entryRecord {schema name : String} {columns : List String}
    (hcolumns : columns ∈ (entryTable schema name).distinctColumns) {m n : Nat}
    {a b : String × Literal} (h : (entryRecord m a).agrees columns (entryRecord n b) = true) :
    m = n ∨ a.1 = b.1 := by
  have hid (n : Nat) (a : String × Literal) :
      (entryRecord n a).lookup "id" = some (.count (n + 1)) := rfl
  have hkey (n : Nat) (a : String × Literal) :
      (entryRecord n a).lookup "key" = some (.text a.1) := rfl
  have hcases : columns = ["id"] ∨ columns = ["key"] := List.mem_pair.1 hcolumns
  rcases hcases with rfl | rfl
  · exact .inl (by simpa [Record.agrees, hid] using h)
  · exact .inr (by simpa [Record.agrees, hkey] using h)

/-- A row is stored after others that have other keys. -/
theorem insertRow_entryTable (schema name : String) {done : List (String × Literal)}
    {entry : String × Literal} (hnew : entry.1 ∉ done.map (·.1)) :
    (entryTable schema name).insertRow ["key", "value"] (done.mapIdx entryRecord) (entryRow entry)
      = .ok ((done ++ [entry]).mapIdx entryRecord) := by
  have hmatches : (entryTable schema name).Matches ["key", "value"] (entryRow entry) :=
    ⟨by decide, by simp [entryTable, Column.key, Column.required], rfl⟩
  have hdistinct : ((entryTable schema name).distinctColumns.find? fun names =>
      (done.mapIdx entryRecord).any ((entryRecord done.length entry).agrees names)) = none := by
    refine List.find?_eq_none.2 fun columns hcolumns hany => ?_
    obtain ⟨record, hrecord, hagrees⟩ := List.any_eq_true.1 hany
    obtain ⟨i, hi, rfl⟩ := List.mem_mapIdx.1 hrecord
    rcases agrees_entryRecord hcolumns hagrees with hsame | hsame
    · exact hi.ne' hsame
    · exact hnew (hsame ▸ List.mem_map_of_mem (List.getElem_mem hi))
  unfold Table.insertRow
  rw [List.length_mapIdx, recordOf_entryTable]
  simp only [hmatches, not_true_eq_false, if_false, hdistinct]
  rw [List.mapIdx_concat]
  rfl

/-- All rows are stored: no two entries share a key. -/
theorem insertAll_entrySeed (schema name : String) (e : Enumeration) :
    (entryTable schema name).insertAll (entrySeed schema name e)
      = .ok (e.entries.entries.mapIdx entryRecord) := by
  have hrows : (entrySeed schema name e).rows = e.entries.entries.map entryRow := rfl
  have hstep : ∀ done entry rest stored, e.entries.entries = done ++ entry :: rest →
      stored = done.mapIdx entryRecord → ∃ stored', (entryTable schema name).insertRow
        ["key", "value"] stored (entryRow entry) = .ok stored'
          ∧ stored' = (done ++ [entry]).mapIdx entryRecord := by
    rintro done entry rest _ hsplit rfl
    refine ⟨_, insertRow_entryTable schema name fun hmem => ?_, rfl⟩
    obtain ⟨other, hother, hkey⟩ := List.mem_map.1 hmem
    have hsorted := hsplit ▸ e.entries.sorted
    have hlt := (List.pairwise_append.1 hsorted).2.2 other hother entry List.mem_cons_self
    exact String.lt_irrefl _ (hkey ▸ hlt)
  rw [Table.insertAll, hrows, List.foldlM_map]
  obtain ⟨stored, hstored, rfl⟩ :=
    exists_foldlM_ok (fun done stored => stored = done.mapIdx entryRecord) rfl hstep
  exact hstored

/-! ## Checks -/

/-- The conditions on an enumeration and its settings, in the order in which they are checked. -/
theorem checkEnumeration_eq (s : EnumerationSettings) (e : Enumeration) : checkEnumeration s e =
    if Text.isBlank e.name then .error .emptyEnumerationName
    else if e.entries.isEmpty then .error (.noEntries e.name)
    else if Text.isBlank s.schema then .error (.emptySchema .enumeration)
    else (mistyped? e).elim (.ok ()) fun entry => .error (.entryType e.name entry e.type) := by
  unfold checkEnumeration requireSchema
  cases Text.isBlank e.name with
  | true => rfl
  | false =>
    cases e.entries.isEmpty with
    | true => rfl
    | false =>
      cases Text.isBlank s.schema with
      | true => rfl
      | false => cases mistyped? e <;> rfl

theorem mistyped?_eq_none_iff {e : Enumeration} : mistyped? e = none ↔
    ∀ key v, e.entries.get? key = some v → v.Acceptable e.type := by
  simp only [mistyped?, Option.map_eq_none_iff, List.find?_eq_none, Prod.forall,
    NameMap.mem_entries_iff, Bool.not_eq_true', Bool.not_eq_false, Literal.hasType_iff]

/-- The entry that is reported has an unacceptable value, and no smaller one has. -/
theorem mistyped?_eq_some {e : Enumeration} {entry : String} (h : mistyped? e = some entry) :
    (∃ v, e.entries.get? entry = some v ∧ ¬ v.Acceptable e.type)
      ∧ ∀ key v, e.entries.get? key = some v → ¬ v.Acceptable e.type → entry ≤ key := by
  obtain ⟨⟨entry, v⟩, hfind, rfl⟩ := Option.map_eq_some_iff.1 h
  obtain ⟨hbad, before, after, hsplit, hbefore⟩ := List.find?_eq_some_iff_append.1 hfind
  simp only [Bool.not_eq_true', ← Bool.not_eq_true, Literal.hasType_iff] at hbad
  have hmem : (entry, v) ∈ e.entries.entries := by simp [hsplit]
  refine ⟨⟨v, NameMap.mem_entries_iff.1 hmem, hbad⟩, fun key v' hkey hbad' => ?_⟩
  have hmem' := NameMap.mem_entries_iff.2 hkey
  have hsorted := hsplit ▸ e.entries.sorted
  rw [hsplit] at hmem'
  rcases List.mem_append.1 hmem' with hmem' | hmem'
  · have hgood := hbefore _ hmem'
    rw [Bool.not_not, Literal.hasType_iff] at hgood
    exact absurd hgood hbad'
  · rcases List.mem_cons.1 hmem' with heq | hmem'
    · cases heq
      exact String.le_refl _
    · have hlater := (List.pairwise_cons.1 (List.pairwise_append.1 hsorted).2.1).1 _ hmem'
      exact le_of_lt hlater

theorem mistyped?_eq_some_iff {e : Enumeration} {entry : String} : mistyped? e = some entry ↔
    (∃ v, e.entries.get? entry = some v ∧ ¬ v.Acceptable e.type)
      ∧ ∀ key v, e.entries.get? key = some v → ¬ v.Acceptable e.type → entry ≤ key := by
  refine ⟨mistyped?_eq_some, ?_⟩
  rintro ⟨⟨v, hentry, hbad⟩, hleast⟩
  cases hfound : mistyped? e with
  | none => exact absurd (mistyped?_eq_none_iff.1 hfound entry v hentry) hbad
  | some entry' =>
    obtain ⟨⟨v', hentry', hbad'⟩, hleast'⟩ := mistyped?_eq_some hfound
    rw [String.le_antisymm (hleast' entry v hentry hbad) (hleast entry' v' hentry' hbad')]

/-- What an enumeration needs for a table, whatever its values are. -/
structure Tabulable (s : EnumerationSettings) (e : Enumeration) : Prop where
  named : Text.isBlank e.name = false
  inhabited : ∃ key v, e.entries.get? key = some v
  placed : Text.isBlank s.schema = false

theorem checkEnumeration_of_tabulable {s : EnumerationSettings} {e : Enumeration}
    (h : Tabulable s e) : checkEnumeration s e
      = (mistyped? e).elim (.ok ()) fun entry => .error (.entryType e.name entry e.type) := by
  obtain ⟨key, v, hkey⟩ := h.inhabited
  rw [checkEnumeration_eq, h.named, NameMap.isEmpty_of_get? hkey, h.placed]
  rfl

/-- What has no table for want of something else is not refused for its values. -/
theorem tabulable_or_checkEnumeration (s : EnumerationSettings) (e : Enumeration) :
    Tabulable s e ∨ ∃ err, checkEnumeration s e = .error err
      ∧ ∀ name entry type, err ≠ .entryType name entry type := by
  rw [checkEnumeration_eq]
  split_ifs with hname hentries hschema
  · exact .inr ⟨_, rfl, by simp⟩
  · exact .inr ⟨_, rfl, by simp⟩
  · exact .inr ⟨_, rfl, by simp⟩
  · rw [NameMap.isEmpty_eq] at hentries
    obtain ⟨⟨key, v⟩, hmem⟩ := List.exists_mem_of_ne_nil _ (mt List.isEmpty_iff.2 hentries)
    exact .inl ⟨Bool.eq_false_iff.2 hname, ⟨key, v, NameMap.mem_entries_iff.1 hmem⟩,
      Bool.eq_false_iff.2 hschema⟩

/-- The table of an enumeration and its rows, under all conditions. -/
theorem compileEnumeration_eq_ok {s : EnumerationSettings} {e : Enumeration} {t : LookupTable} :
    compileEnumeration s e = .ok t ↔ Tabulable s e
      ∧ (∀ key v, e.entries.get? key = some v → v.Acceptable e.type)
      ∧ t = ⟨entryTable s.schema (Naming.tableName e.name),
        entrySeed s.schema (Naming.tableName e.name) e⟩ := by
  rw [compileEnumeration, bind_eq_ok, ← mistyped?_eq_none_iff]
  simp only [pure_eq_ok]
  rcases tabulable_or_checkEnumeration s e with htabulable | ⟨err, herr, -⟩
  · rw [checkEnumeration_of_tabulable htabulable]
    cases mistyped? e <;> simp [htabulable, eq_comm]
  · rw [herr]
    simp only [reduceCtorEq, false_and, exists_false, false_iff]
    rintro ⟨htabulable, hnone, -⟩
    rw [checkEnumeration_of_tabulable htabulable, hnone] at herr
    cases herr

/-- An entry is reported if nothing but values is wrong. -/
theorem compileEnumeration_eq_entryType {s : EnumerationSettings} {e : Enumeration}
    {name entry : String} {type : LiteralType} :
    compileEnumeration s e = .error (.entryType name entry type) ↔ Tabulable s e
      ∧ name = e.name ∧ type = e.type ∧ mistyped? e = some entry := by
  rw [compileEnumeration]
  rcases tabulable_or_checkEnumeration s e with htabulable | ⟨err, herr, hother⟩
  · rw [checkEnumeration_of_tabulable htabulable]
    cases hfound : mistyped? e with
    | none => simp [pure, Except.pure, bind, Except.bind]
    | some found => simp [bind, Except.bind, htabulable, eq_comm, and_comm]
  · rw [herr]
    constructor
    · intro h
      cases h
      exact absurd rfl (hother _ _ _)
    · rintro ⟨htabulable, -, -, hsome⟩
      rw [checkEnumeration_of_tabulable htabulable, hsome] at herr
      cases herr
      exact absurd rfl (hother _ _ _)

/-! ## The table and its rows -/

/-- A row is that of an entry: it has the key and a text of the value. -/
def IsRow (entry : String × Literal) (row : List String) : Prop :=
  ∃ text, entry.2.Spelled text ∧ row = [entry.1, text]

theorem isRow_entryRow (entry : String × Literal) : IsRow entry (entryRow entry) :=
  ⟨_, entry.2.spelled_text, rfl⟩

/-- The key of a row tells the entry. -/
theorem IsRow.key_eq {a b : String × Literal} {row : List String} (ha : IsRow a row)
    (hb : IsRow b row) : a.1 = b.1 := by
  obtain ⟨_, -, rfl⟩ := ha
  obtain ⟨_, -, hrow⟩ := hb
  exact (List.cons.inj hrow).1

/-- The table of an enumeration is filled by its rows, and these are its entries. -/
structure Filled (e : Enumeration) (t : LookupTable) : Prop where
  /-- The rows are for the table. -/
  schema_eq : t.seed.schema = t.table.schema
  name_eq : t.seed.table = t.table.name
  columns_eq : t.seed.columns = ["key", "value"]
  /-- However the entries are listed, the rows are those of the list after it has been sorted, by
  the bytes of the keys. -/
  sorted : ∃ sorted : List (String × Literal), sorted.Perm e.entries.listing
    ∧ sorted.Pairwise (fun a b => Text.utf8 a.1 < Text.utf8 b.1)
    ∧ List.Forall₂ IsRow sorted t.seed.rows
  /-- Each entry has a row of its own, and there are no other rows. -/
  exists_row : ∀ entry ∈ e.entries.listing, ∃! row, row ∈ t.seed.rows ∧ IsRow entry row
  exists_entry : ∀ row ∈ t.seed.rows, ∃! entry, entry ∈ e.entries.listing ∧ IsRow entry row
  /-- Keys strictly increase in the order of their bytes. -/
  increasing : t.seed.rows.Pairwise fun a b =>
    ∃ k ∈ a.head?, ∃ k' ∈ b.head?, Text.utf8 k < Text.utf8 k'
  /-- Every column must have a value, and keys must not repeat. -/
  required : ∀ c ∈ t.table.columns, c.nullable = false
  unique : ["key"] ∈ t.table.uniques.map (·.columns)
  /-- All rows can be stored, one after the other, and are there in the end. -/
  stored : ∃ records, t.table.insertAll t.seed = .ok records
    ∧ records.map (fun record => [record.lookup "key", record.lookup "value"])
      = t.seed.rows.map fun row => row.map fun value => some (.text value)

theorem filled_entryTable (schema name : String) (e : Enumeration) :
    Filled e ⟨entryTable schema name, entrySeed schema name e⟩ := by
  have hrows : (entrySeed schema name e).rows = e.entries.entries.map entryRow := rfl
  have hmem {entry : String × Literal} :
      entry ∈ e.entries.entries ↔ entry ∈ e.entries.listing := e.entries.entries_perm.mem_iff
  -- entries of one key are the same
  have hkeys {a b : String × Literal} (ha : a ∈ e.entries.listing) (hb : b ∈ e.entries.listing)
      (hkey : a.1 = b.1) : a = b := by
    have ha' := NameMap.mem_entries_iff.1 (hmem.2 ha)
    have hb' := NameMap.mem_entries_iff.1 (hmem.2 hb)
    rw [hkey] at ha'
    exact Prod.ext hkey (Option.some.inj (ha'.symm.trans hb'))
  have hincreasing : e.entries.entries.Pairwise fun a b => Text.utf8 a.1 < Text.utf8 b.1 :=
    e.entries.sorted.imp Text.lt_iff_utf8_lt.1
  refine ⟨rfl, rfl, rfl, ⟨_, e.entries.entries_perm, hincreasing, ?_⟩, ?_, ?_, ?_, ?_,
    List.mem_cons_self, ?_⟩
  · rw [hrows, List.forall₂_map_right_iff]
    exact List.forall₂_same.2 fun entry _ => isRow_entryRow entry
  · intro entry hentry
    refine ⟨_, ⟨List.mem_map_of_mem (f := entryRow) (hmem.2 hentry), isRow_entryRow entry⟩, ?_⟩
    rintro row ⟨hrow, hof⟩
    obtain ⟨other, hother, rfl⟩ := List.mem_map.1 hrow
    exact congrArg entryRow (hkeys (hmem.1 hother) hentry ((isRow_entryRow other).key_eq hof))
  · intro row hrow
    obtain ⟨entry, hentry, rfl⟩ := List.mem_map.1 hrow
    refine ⟨entry, ⟨hmem.1 hentry, isRow_entryRow entry⟩, ?_⟩
    rintro other ⟨hother, hof⟩
    exact hkeys hother (hmem.1 hentry) (hof.key_eq (isRow_entryRow entry))
  · rw [hrows, List.pairwise_map]
    exact hincreasing.imp fun hlt => ⟨_, rfl, _, rfl, hlt⟩
  · simp [entryTable, Column.key, Column.required]
  · refine ⟨_, insertAll_entrySeed schema name e, ?_⟩
    refine List.ext_getElem (by simp [hrows]) fun i _ _ => ?_
    simp only [hrows, List.getElem_map, List.getElem_mapIdx]
    rfl

/-- An enumeration has a table exactly if it has a name, at least one entry, a schema, and only
values that its type allows. Then the table is filled by its rows. If only values are wrong, the
entry of the least key that has one is reported. -/
theorem compileEnumeration_fills (s : EnumerationSettings) (e : Enumeration) :
    ((∃ t, compileEnumeration s e = .ok t) ↔ Tabulable s e
      ∧ ∀ key v, e.entries.get? key = some v → v.Acceptable e.type)
    ∧ (∀ t, compileEnumeration s e = .ok t → Filled e t)
    ∧ ∀ name entry type, compileEnumeration s e = .error (.entryType name entry type) ↔
      Tabulable s e ∧ name = e.name ∧ type = e.type
        ∧ (∃ v, e.entries.get? entry = some v ∧ ¬ v.Acceptable e.type)
        ∧ ∀ key v, e.entries.get? key = some v → ¬ v.Acceptable e.type →
          Text.utf8 entry ≤ Text.utf8 key := by
  refine ⟨?_, ?_, ?_⟩
  · simp only [compileEnumeration_eq_ok]
    grind
  · intro t ht
    obtain ⟨-, -, rfl⟩ := compileEnumeration_eq_ok.1 ht
    exact filled_entryTable _ _ e
  · intro name entry type
    simp only [compileEnumeration_eq_entryType, mistyped?_eq_some_iff, Text.le_iff_utf8_le]

/-- Integers are taken for floats, and the rows of three entries fill a table. Of two texts among
integers the one of the smaller key is reported, although it comes later. -/
theorem compileEnumeration_fills_numbers :
    let priority : Enumeration :=
      ⟨"Priority", .float,
        .ofList [("Low", .integer 1), ("High", .integer 2), ("None", .float ⟨0xBFE0000000000000⟩)]⟩
    let level : Enumeration :=
      ⟨"Level", .integer,
        .ofList [("Two", .string "2"), ("Zero", .integer 0), ("One", .string "1")]⟩
    (∃ t, compileEnumeration {} priority = .ok t ∧ Filled priority t
        ∧ t.seed.rows = [["High", "2"], ["Low", "1"], ["None", "-0.5"]])
      ∧ compileEnumeration {} level = .error (.entryType "Level" "One" .integer) := by
  intro priority level
  have hpriority : Tabulable {} priority := ⟨by decide, ⟨"Low", .integer 1, by decide⟩, by decide⟩
  have hlevel : Tabulable {} level := ⟨by decide, ⟨"Zero", .integer 0, by decide⟩, by decide⟩
  obtain ⟨hok, hfilled, -⟩ := compileEnumeration_fills {} priority
  obtain ⟨-, -, hreported⟩ := compileEnumeration_fills {} level
  obtain ⟨t, ht⟩ := hok.2 ⟨hpriority, mistyped?_eq_none_iff.1 (by decide)⟩
  obtain ⟨hbad, hleast⟩ := mistyped?_eq_some (by decide : mistyped? level = some "One")
  refine ⟨⟨t, ht, hfilled t ht, ?_⟩, (hreported _ _ _).2 ⟨hlevel, rfl, rfl, hbad, ?_⟩⟩
  · obtain ⟨-, -, rfl⟩ := compileEnumeration_eq_ok.1 ht
    decide +kernel
  · exact fun key v hkey hv => Text.le_iff_utf8_le.1 (hleast key v hkey hv)

end Schemata.Lowering
