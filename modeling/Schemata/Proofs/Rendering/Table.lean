import Schemata.Proofs.Rendering.Legible
import Schemata.Sql.Table
import Mathlib.Data.List.Nodup

/-!
# Tables in their statements

The statements that create a table and its indices tell the whole table, whatever its names are. A
statement is first read as a list of clauses: what each of them says shows in its text alone. The
columns of the primary key show in different places, in the clause of the only one or in a clause of
their own, but the clauses together always name them; and a column of the key must have a value
also where its clause does not say so.

## Main definitions

* `Clause`: what a clause of a table says.
* `Table.contents`: what the clauses of a table say.
* `Table.ofContents`: the table that its clauses describe.
* `Table.Plain`: tables whose clauses say everything.

## Main statements

* `legible_clause`, `legible_index`: clauses and statements of indices are legible.
* `Table.ofContents_contents`: clauses describe the table that they come from.
* `Table.sql_eq_iff`: tables with the same text are the same.
-/

namespace Schemata.Sql

/-! ## Words -/

theorem ColumnType.eq_of_begins (t u : ColumnType) (h : t.sql.toList <+: u.sql.toList) : t = u := by
  have hall : ∀ t ∈ all, ∀ u ∈ all, t.sql.toList <+: u.sql.toList → t = u := by decide +kernel
  exact hall t (by cases t <;> decide) u (by cases u <;> decide) h

theorem ReferentialAction.eq_of_begins (a b : ReferentialAction)
    (h : a.keyword.text.toList <+: b.keyword.text.toList) : a = b := by
  have hall : ∀ a ∈ all, ∀ b ∈ all, a.keyword.text.toList <+: b.keyword.text.toList → a = b := by
    decide +kernel
  exact hall a (by cases a <;> decide) b (by cases b <;> decide) h

theorem IndexMethod.eq_of_begins (m n : IndexMethod) (h : m.sql.toList <+: n.sql.toList) :
    m = n := by
  revert h
  cases m <;> cases n <;> decide

/-! ## Clauses -/

/-- What a constraint asks for. -/
inductive Constraint where
  | unique (columns : List String)
  | foreign (columns : List String) (refSchema refTable : String) (refColumns : List String)
      (onDelete onUpdate : Option ReferentialAction)

/-- What a clause of a table says. A column may be said to be required, or to be the key alone. -/
inductive Clause where
  | column (name : String) (type : ColumnType) (required alone : Bool)
  | key (columns : List String)
  | constraint (name : String) (c : Constraint)

/-- What is said of an event. -/
def actionChars (event : String) (a : Option ReferentialAction) : List Char :=
  a.elim [] fun a => event.toList ++ a.keyword.text.toList

/-- The text of a constraint, after its name. -/
def Constraint.chars : Constraint → List Char
  | .unique columns => " UNIQUE ".toList ++ renderChars (nameList columns)
  | .foreign columns refSchema refTable refColumns onDelete onUpdate =>
    " FOREIGN KEY ".toList ++ (renderChars (nameList columns) ++ (" REFERENCES ".toList
      ++ (renderChars (inSchema refSchema refTable) ++ (renderChars (nameList refColumns)
        ++ (actionChars " ON DELETE " onDelete ++ actionChars " ON UPDATE " onUpdate)))))

/-- The text of a clause. -/
def Clause.chars : Clause → List Char
  | .column name type required alone =>
    quoteIdentifier name ++ (" ".toList ++ (type.sql.toList
      ++ ((if required then " NOT NULL".toList else [])
        ++ (if alone then " PRIMARY KEY".toList else []))))
  | .key columns => "PRIMARY KEY ".toList ++ renderChars (nameList columns)
  | .constraint name c => "CONSTRAINT ".toList ++ (quoteIdentifier name ++ c.chars)

theorem legible_columnClause : Legible (Begins lineEnds)
    fun x : String × ColumnType × Bool × Bool =>
      (Clause.column x.1 x.2.1 x.2.2.1 x.2.2.2).chars := by
  have hflags : Legible (Begins lineEnds) fun x : Bool × Bool =>
      (if x.1 then " NOT NULL".toList else []) ++ (if x.2 then " PRIMARY KEY".toList else []) := by
    refine Legible.append (Q := Begins (" PRIMARY" :: lineEnds))
      (.flag _ fun _ s hr => hr.ne (begins_words _ s) (by decide))
      (.flag _ fun _ s hr => hr.ne (begins_words _ s) (by decide)) fun alone r hr => ?_
    cases alone with
    | false => exact hr.mono (by decide)
    | true => exact .append (by decide) r
  have htype := (legible_words (P := anything) ColumnType.eq_of_begins).append hflags
    fun _ _ _ => trivial
  exact legible_quoteIdentifier.followedBy " " htype (by decide)

theorem legible_actions : Legible (Begins lineEnds)
    fun x : Option ReferentialAction × Option ReferentialAction =>
      actionChars " ON DELETE " x.1 ++ actionChars " ON UPDATE " x.2 := by
  have haction (event : String) {ends : List String} (h : Apart ends [event]) :
      Legible (Begins ends) (actionChars event) :=
    (legible_words ReferentialAction.eq_of_begins).optional event h
  refine Legible.append (Q := Begins (" ON UPDATE " :: lineEnds))
    (haction " ON DELETE " (by decide)) (haction " ON UPDATE " (by decide)) fun a r hr => ?_
  cases a with
  | none => exact hr.mono (by decide)
  | some a => exact .append (.append (by decide) _) r

theorem begins_nameList (names : List String) (r : List Char) :
    Begins marks (renderChars (nameList names) ++ r) := by
  refine ⟨"(", by decide, ?_⟩
  simp [nameList, parenthesized, Token.chars]

theorem legible_unique : Legible anything fun columns => (Constraint.unique columns).chars :=
  legible_nameList.after " UNIQUE "

theorem legible_foreign : Legible (Begins lineEnds) fun x : List String × (String × String) ×
    List String × Option ReferentialAction × Option ReferentialAction =>
      (Constraint.foreign x.1 x.2.1.1 x.2.1.2 x.2.2.1 x.2.2.2.1 x.2.2.2.2).chars := by
  have htarget := legible_inSchema.append
    (legible_nameList.append legible_actions fun _ _ _ => trivial) fun x r _ => by
      rw [List.append_assoc]
      exact begins_nameList _ _
  exact (legible_nameList.append (htarget.after " REFERENCES ")
    fun _ _ _ => trivial).after " FOREIGN KEY "

theorem Constraint.unique_append_ne {columns columns' : List String} {refSchema refTable : String}
    {refColumns : List String} {onDelete onUpdate : Option ReferentialAction} {r s : List Char} :
    (Constraint.unique columns).chars ++ r
      ≠ (Constraint.foreign columns' refSchema refTable refColumns onDelete onUpdate).chars ++ s :=
  ((begins_words " UNIQUE " _).append r).ne ((begins_words " FOREIGN KEY " _).append s) (by decide)

theorem legible_constraint : Legible (Begins lineEnds) Constraint.chars := by
  intro c d r s hr hs heq
  cases c with
  | unique columns =>
    cases d with
    | unique columns' =>
      obtain ⟨rfl, hrest⟩ := legible_unique trivial trivial heq
      exact ⟨rfl, hrest⟩
    | foreign => exact absurd heq Constraint.unique_append_ne
  | foreign columns refSchema refTable refColumns onDelete onUpdate =>
    cases d with
    | unique => exact absurd heq.symm Constraint.unique_append_ne
    | foreign columns' refSchema' refTable' refColumns' onDelete' onUpdate' =>
      obtain ⟨hsame, hrest⟩ := @legible_foreign
        (columns, (refSchema, refTable), refColumns, onDelete, onUpdate)
        (columns', (refSchema', refTable'), refColumns', onDelete', onUpdate') r s hr hs heq
      cases hsame
      exact ⟨rfl, hrest⟩

theorem legible_constraintClause : Legible (Begins lineEnds)
    fun x : String × Constraint => (Clause.constraint x.1 x.2).chars := by
  refine (legible_quoteIdentifier.append legible_constraint fun c r _ => ?_).after "CONSTRAINT "
  cases c with
  | unique => exact .append (.append (by decide) _) r
  | foreign => exact .append (.append (by decide) _) r

theorem Clause.key_append_ne {columns : List String} {name : String} {c : Constraint}
    {r s : List Char} : (Clause.key columns).chars ++ r ≠ (Clause.constraint name c).chars ++ s :=
  ((begins_words "PRIMARY KEY " _).append r).ne ((begins_words "CONSTRAINT " _).append s)
    (by decide)

/-- What clauses begin with, but for those of columns. -/
def clauseStarts : List String := ["PRIMARY KEY ", "CONSTRAINT "]

/-- The clause of a column begins with a name. -/
theorem Clause.ne_column_append {name : String} {type : ColumnType} {required alone : Bool}
    {r s : List Char} (hs : Begins clauseStarts s) :
    s ≠ (Clause.column name type required alone).chars ++ r :=
  hs.ne_name ((List.prefix_append (quoteIdentifier name) _).trans (List.prefix_append _ r))
    (by decide)

theorem Clause.begins_key (columns : List String) (r : List Char) :
    Begins clauseStarts ((Clause.key columns).chars ++ r) :=
  ((begins_words "PRIMARY KEY " _).append r).mono (by decide)

theorem Clause.begins_constraint (name : String) (c : Constraint) (r : List Char) :
    Begins clauseStarts ((Clause.constraint name c).chars ++ r) :=
  ((begins_words "CONSTRAINT " _).append r).mono (by decide)

theorem legible_clause : Legible (Begins lineEnds) Clause.chars := by
  intro c d r s hr hs heq
  cases c with
  | column name type required alone =>
    cases d with
    | column name' type' required' alone' =>
      obtain ⟨hsame, hrest⟩ := @legible_columnClause (name, type, required, alone)
        (name', type', required', alone') r s hr hs heq
      cases hsame
      exact ⟨rfl, hrest⟩
    | key => exact absurd heq.symm (Clause.ne_column_append (Clause.begins_key ..))
    | constraint => exact absurd heq.symm (Clause.ne_column_append (Clause.begins_constraint ..))
  | key columns =>
    cases d with
    | column => exact absurd heq (Clause.ne_column_append (Clause.begins_key ..))
    | key columns' =>
      obtain ⟨rfl, hrest⟩ := legible_nameList.after "PRIMARY KEY " trivial trivial heq
      exact ⟨rfl, hrest⟩
    | constraint => exact absurd heq Clause.key_append_ne
  | constraint name c =>
    cases d with
    | column => exact absurd heq (Clause.ne_column_append (Clause.begins_constraint ..))
    | key => exact absurd heq.symm Clause.key_append_ne
    | constraint name' c' =>
      obtain ⟨hsame, hrest⟩ := @legible_constraintClause (name, c) (name', c') r s hr hs heq
      cases hsame
      exact ⟨rfl, hrest⟩

/-! ## Indices -/

theorem legible_index : Legible anything fun i : Index => renderChars i.tokens := by
  -- from the end of the statement to its beginning
  have hcolumns : Legible anything
      fun columns => " ".toList ++ (renderChars (nameList columns) ++ ";".toList) :=
    (legible_nameList.before ";" fun _ _ => trivial).after " "
  have hmethod : Legible (Begins [" ("])
      fun method : Option IndexMethod => method.elim [] fun m => " USING ".toList ++ m.sql.toList :=
    (legible_words IndexMethod.eq_of_begins).optional " USING " (by decide)
  have hpair := hmethod.append hcolumns fun columns r _ => by
    refine ⟨" (", List.mem_singleton_self _, ?_⟩
    simp [nameList, parenthesized, Token.chars]
  have hspace (method : Option IndexMethod) (cs : List Char) : Begins marks
      ((method.elim [] fun m => " USING ".toList ++ m.sql.toList) ++ (" ".toList ++ cs)) := by
    cases method with
    | none => exact (begins_words " " cs).mono (by decide)
    | some m => exact .append (.append (by decide) _) _
  have htable := legible_inSchema.append hpair fun _ r _ => (hspace _ _).append r
  have hname := legible_quoteIdentifier.followedBy " ON " htable (by decide)
  have hunique := ((Legible.flag (P := Begins [" INDEX"]) " UNIQUE"
    fun _ s hr => hr.ne (begins_words _ s) (by decide)).followedBy " INDEX IF NOT EXISTS " hname
      (by decide)).after "CREATE"
  refine hunique.of_eq (fun i => (i.unique, i.name, (i.schema, i.table), i.method, i.columns))
    ?_ fun i => ?_
  · rintro ⟨⟩ ⟨⟩ h
    cases h
    rfl
  · cases hunique : i.unique <;> cases hmethod : i.method <;>
      simp [Index.tokens, ifNotExists, phrase, inSchema, Token.chars, Keyword.text, hunique,
        hmethod]

/-! ## Tables as lists of clauses -/

/-- What the clause of a column says. -/
def Column.clause (inlineKey : Bool) (c : Column) : Clause :=
  .column c.name c.type (!c.nullable && !(inlineKey && c.primary)) (inlineKey && c.primary)

/-- What the clause of a unique constraint says. -/
def UniqueConstraint.clause (u : UniqueConstraint) : Clause :=
  .constraint u.name (.unique u.columns)

/-- What the clause of a foreign key says. It does not name the table that it belongs to. -/
def ForeignKey.clause (k : ForeignKey) : Clause :=
  .constraint k.name
    (.foreign k.columns k.refSchema k.refTable k.refColumns k.onDelete k.onUpdate)

theorem Column.renderChars_tokens (inlineKey : Bool) {c : Column} (h : c.fallback = none) :
    renderChars (c.tokens inlineKey) = (c.clause inlineKey).chars := by
  unfold Column.tokens Column.clause Clause.chars
  cases c.nullable <;> cases inlineKey && c.primary <;>
    simp [h, phrase, Token.chars, Keyword.text]

theorem UniqueConstraint.renderChars_tokens (u : UniqueConstraint) :
    renderChars u.tokens = u.clause.chars := by
  unfold UniqueConstraint.tokens UniqueConstraint.clause Clause.chars Constraint.chars
  simp [Token.chars, Keyword.text]

theorem renderChars_actionGroups (event : Keyword) (a : Option ReferentialAction) :
    (actionGroups event a).flatMap (fun g => ' ' :: renderChars g)
      = actionChars (" ON " ++ event.text ++ " ") a := by
  cases a <;> simp [actionGroups, actionChars, phrase, Token.chars, Keyword.text]

theorem ForeignKey.renderChars_tokens (k : ForeignKey) : renderChars k.tokens = k.clause.chars := by
  unfold ForeignKey.tokens ForeignKey.clause Clause.chars Constraint.chars
  simp [phrase, Token.chars, Keyword.text, renderChars_actionGroups]

/-- What the clauses of a table say. -/
def Table.contents (t : Table) : List Clause :=
  t.columns.map (Column.clause (t.primaryKey.length == 1))
    ++ (if t.primaryKey.length > 1 then [.key t.primaryKey] else [])
    ++ t.uniques.map UniqueConstraint.clause
    ++ t.foreignKeys.map ForeignKey.clause

/-- Tables whose clauses say everything: names of columns differ, no column has a fallback, columns
of the key must have a value, and foreign keys are held by the table. -/
structure Table.Plain (t : Table) : Prop where
  nodup_names : (t.columns.map (·.name)).Nodup
  fallback_eq : ∀ c ∈ t.columns, c.fallback = none
  nullable_eq : ∀ c ∈ t.columns, c.primary = true → c.nullable = false
  holder_eq : ∀ k ∈ t.foreignKeys, k.schema = t.schema ∧ k.table = t.name

theorem Table.map_renderChars_clauses {t : Table} (h : ∀ c ∈ t.columns, c.fallback = none) :
    t.clauses.map renderChars = t.contents.map Clause.chars := by
  have hkey : t.keyClauses.map renderChars
      = (if t.primaryKey.length > 1 then [Clause.key t.primaryKey] else []).map Clause.chars := by
    unfold Table.keyClauses
    split
    · rw [List.map_singleton, List.map_singleton]
      unfold Clause.chars
      simp [phrase, Token.chars, Keyword.text]
    · rfl
  have hcolumns (b : Bool) : (t.columns.map (Column.tokens b)).map renderChars
      = (t.columns.map (Column.clause b)).map Clause.chars := by
    simpa using fun c hc => Column.renderChars_tokens b (h c hc)
  simp only [Table.clauses, Table.contents, List.map_append, hkey, hcolumns, List.map_map,
    Function.comp_def, UniqueConstraint.renderChars_tokens, ForeignKey.renderChars_tokens]

/-! ## The table of a list of clauses -/

/-- The columns that a clause counts to the key. -/
def Clause.keyColumns : Clause → List String
  | .column name _ _ true => [name]
  | .key columns => columns
  | _ => []

/-- The column that a clause describes, where the key is known. -/
def Clause.column? (primaryKey : List String) : Clause → Option Column
  | .column name type required alone => some {
      name := name
      type := type
      nullable := !required && !alone
      primary := primaryKey.contains name }
  | _ => none

/-- The unique constraint that a clause describes. -/
def Clause.unique? : Clause → Option UniqueConstraint
  | .constraint name (.unique columns) => some ⟨name, columns⟩
  | _ => none

/-- The foreign key of a table that a clause describes. -/
def Clause.foreignKey? (schema table : String) : Clause → Option ForeignKey
  | .constraint name (.foreign columns refSchema refTable refColumns onDelete onUpdate) =>
    some ⟨name, schema, table, columns, refSchema, refTable, refColumns, onDelete, onUpdate⟩
  | _ => none

/-- The table that clauses describe. -/
def Table.ofContents (schema name : String) (clauses : List Clause) (indices : List Index) :
    Table where
  schema := schema
  name := name
  columns := clauses.filterMap (Clause.column? (clauses.flatMap Clause.keyColumns))
  foreignKeys := clauses.filterMap (Clause.foreignKey? schema name)
  indices := indices
  uniques := clauses.filterMap Clause.unique?

namespace Table

variable {t : Table}

theorem flatMap_keyColumns (t : Table) : t.contents.flatMap Clause.keyColumns = t.primaryKey := by
  have hcolumns (b : Bool) (cs : List Column) : (cs.map (Column.clause b)).flatMap Clause.keyColumns
      = if b then (cs.filter (·.primary)).map (·.name) else [] := by
    induction cs with
    | nil => cases b <;> rfl
    | cons c cs ih =>
      rw [List.map_cons, List.flatMap_cons, ih]
      cases b <;> cases hc : c.primary <;> simp [Column.clause, Clause.keyColumns, hc]
  have huniques : (t.uniques.map UniqueConstraint.clause).flatMap Clause.keyColumns = [] := by
    simp [UniqueConstraint.clause, Clause.keyColumns]
  have hforeignKeys : (t.foreignKeys.map ForeignKey.clause).flatMap Clause.keyColumns = [] := by
    simp [ForeignKey.clause, Clause.keyColumns]
  rw [contents, List.flatMap_append, List.flatMap_append, List.flatMap_append, hcolumns, huniques,
    hforeignKeys, ← primaryKey]
  rcases t.primaryKey with _ | ⟨_, _ | ⟨_, _⟩⟩ <;> simp [Clause.keyColumns]

/-- A column belongs to the key when its name does. -/
theorem Plain.contains_primaryKey (ht : t.Plain) {c : Column} (hc : c ∈ t.columns) :
    t.primaryKey.contains c.name = c.primary := by
  rw [Bool.eq_iff_iff, List.contains_iff_mem, primaryKey, List.mem_map]
  constructor
  · rintro ⟨d, hd, hname⟩
    obtain ⟨hmem, hprimary⟩ := List.mem_filter.1 hd
    exact List.inj_on_of_nodup_map ht.nodup_names hmem hc hname ▸ hprimary
  · exact fun hprimary => ⟨c, List.mem_filter.2 ⟨hc, hprimary⟩, rfl⟩

theorem Plain.column?_clause (ht : t.Plain) (b : Bool) {c : Column} (hc : c ∈ t.columns) :
    (c.clause b).column? t.primaryKey = some c := by
  have hfallback := ht.fallback_eq c hc
  have hnullable := ht.nullable_eq c hc
  have hprimary := ht.contains_primaryKey hc
  obtain ⟨name, type, nullable, primary, fallback⟩ := c
  simp only [Column.clause, Clause.column?, hprimary] at *
  cases b <;> cases primary <;> simp_all

/-- What the clauses of a table describe, kind by kind. -/
theorem filterMap_contents {α : Type} (f : Clause → Option α)
    (hkey : ∀ columns, f (.key columns) = none) :
    t.contents.filterMap f
      = t.columns.filterMap (fun c => f (c.clause (t.primaryKey.length == 1)))
        ++ t.uniques.filterMap (fun u => f u.clause)
        ++ t.foreignKeys.filterMap (fun k => f k.clause) := by
  have hkeys : (if t.primaryKey.length > 1 then [Clause.key t.primaryKey] else []).filterMap f
      = [] := by
    split <;> simp [hkey]
  simp only [contents, List.filterMap_append, List.filterMap_map, hkeys, List.append_nil,
    Function.comp_def]

/-- The clauses of a table describe it. -/
theorem ofContents_contents (ht : t.Plain) :
    ofContents t.schema t.name t.contents t.indices = t := by
  have hcolumns : t.contents.filterMap (Clause.column? t.primaryKey) = t.columns := by
    have hown := List.filterMap_congr fun c hc =>
      ht.column?_clause (t.primaryKey.length == 1) (c := c) hc
    rw [filterMap_contents _ fun _ => rfl, hown]
    simp [UniqueConstraint.clause, ForeignKey.clause, Clause.column?]
  have huniques : t.contents.filterMap Clause.unique? = t.uniques := by
    rw [filterMap_contents _ fun _ => rfl]
    simp [Column.clause, UniqueConstraint.clause, ForeignKey.clause, Clause.unique?]
  have hforeignKeys : t.contents.filterMap (Clause.foreignKey? t.schema t.name)
      = t.foreignKeys := by
    have hown : ∀ k ∈ t.foreignKeys, k.clause.foreignKey? t.schema t.name = some k := by
      rintro ⟨⟩ hk
      obtain ⟨hschema, htable⟩ := ht.holder_eq _ hk
      cases hschema
      cases htable
      rfl
    rw [filterMap_contents _ fun _ => rfl, List.filterMap_congr hown]
    simp [Column.clause, UniqueConstraint.clause, Clause.foreignKey?]
  rw [ofContents, flatMap_keyColumns, hcolumns, huniques, hforeignKeys]

/-! ## Whole statements -/

/-- The text of the statements that create a table with the given clauses, and its indices. -/
def statements (schema name : String) (clauses : List Clause) (indices : List Index) : List Char :=
  "CREATE TABLE IF NOT EXISTS ".toList ++ (renderChars (inSchema schema name) ++ (" (".toList
    ++ (",".toList.intercalate (clauses.map fun c => "\n  ".toList ++ c.chars)
      ++ ("\n);".toList ++ indices.flatMap fun i => "\n".toList ++ renderChars i.tokens))))

theorem legible_statements : Legible (· = [])
    fun x : (String × String) × List Clause × List Index =>
      statements x.1.1 x.1.2 x.2.1 x.2.2 := by
  have hindices : Legible (· = [])
      fun is : List Index => is.flatMap fun i => "\n".toList ++ renderChars i.tokens := by
    refine (legible_index.after "\n").flatMap (fun _ _ => trivial) (fun _ _ => trivial) ?_
    rintro i _ s rfl
    simp
  have hbody := (legible_clause.lines ["\n)"] (by decide)).followedBy "\n);" hindices (by decide)
  exact (legible_inSchema.followedBy " (" hbody (by decide)).after "CREATE TABLE IF NOT EXISTS "

theorem Plain.renderChars_tokens (ht : t.Plain) :
    renderChars t.tokens = statements t.schema t.name t.contents t.indices := by
  have hclauses : (t.clauses.map fun g => "\n  ".toList ++ renderChars g)
      = t.contents.map fun c => "\n  ".toList ++ c.chars := by
    have h := congrArg (List.map ("\n  ".toList ++ ·)) (map_renderChars_clauses ht.fallback_eq)
    simpa only [List.map_map, Function.comp_def] using h
  unfold statements
  simp only [tokens, createTokens, renderChars_append, renderChars_lines, hclauses]
  simp [phrase, ifNotExists, Token.chars, Keyword.text]

/-- Tables with the same text are the same. -/
theorem sql_eq_iff {t u : Table} (ht : t.Plain) (hu : u.Plain) : t.sql = u.sql ↔ t = u := by
  refine ⟨fun h => ?_, fun h => h ▸ rfl⟩
  have htext : renderChars t.tokens = renderChars u.tokens := String.ofList_injective h
  rw [ht.renderChars_tokens, hu.renderChars_tokens] at htext
  obtain ⟨hsame, -⟩ := @legible_statements ((t.schema, t.name), t.contents, t.indices)
    ((u.schema, u.name), u.contents, u.indices) [] [] rfl rfl (by simpa using htext)
  obtain ⟨⟨hschema, hname⟩, hcontents, hindices⟩ : (t.schema = u.schema ∧ t.name = u.name)
      ∧ t.contents = u.contents ∧ t.indices = u.indices := by
    simpa only [Prod.mk.injEq] using hsame
  rw [← ofContents_contents ht, ← ofContents_contents hu, hschema, hname, hcontents, hindices]

namespace Sample

/-- A table with the given columns, of which one refers to another table. -/
def ofColumns (columns : List Column) : Table :=
  { schema := "public", name := "T", columns := columns
    foreignKeys := [{
      name := "fk", schema := "public", table := "T", columns := ["B"]
      refSchema := "public", refTable := "U", refColumns := ["id"], onDelete := some .cascade }] }

/-- A counted key, and a number. -/
def pair : Table := ofColumns [Column.key ⟨"A", .serial, true, false, none⟩,
  ⟨"B", .integer, true, false, none⟩]

/-- A single number, whose name holds all that stands between the names of the other two. -/
def disguised : Table := ofColumns [⟨"A\" SERIAL PRIMARY KEY,\n  \"B", .integer, true, false, none⟩]

end Sample

theorem sql_ne_disguised : Sample.pair.Plain ∧ Sample.disguised.Plain
    ∧ Sample.pair.sql ≠ Sample.disguised.sql := by
  have hpair : Sample.pair.Plain := ⟨by decide, by decide, by decide, by decide⟩
  have hdisguised : Sample.disguised.Plain := ⟨by decide, by decide, by decide, by decide⟩
  exact ⟨hpair, hdisguised, (sql_eq_iff hpair hdisguised).not.2 (by decide)⟩

end Table

end Schemata.Sql
