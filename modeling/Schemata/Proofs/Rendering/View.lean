import Schemata.Proofs.Rendering.Legible
import Schemata.Sql.View

/-!
# Views in their statements

The statement that creates a view tells the whole view, but for the names under which its columns
are known: these are shown only where they differ from the names of the sources. A reference is cut
at its first dot, so that its parts are told by where the dot stands, and an alias that is not
written is the name of the table.

## Main definitions

* `ViewColumn.shown`: what a statement tells of a column.
* `View.statement`: the text of a view from its parts.

## Main statements

* `legible_reference`, `legible_join`: references and joins are legible.
* `View.sql_eq_iff_shown`: views with the same text agree in all but the names of their columns.
-/

namespace Schemata.Sql

/-! ## References -/

/-- A reference in its parts: what stands before its first dot, and what stands behind it. -/
def referenceParts (r : String) : String × Option String :=
  match r.toList.dropWhile (· != '.') with
  | _ :: column => (String.ofList (r.toList.takeWhile (· != '.')), some (String.ofList column))
  | [] => (r, none)

/-- The part of a reference behind its first dot. -/
def columnChars (column : Option String) : List Char :=
  column.elim [] fun c => ".".toList ++ quoteIdentifier c

theorem renderChars_referenceTokens (r : String) : renderChars (referenceTokens r)
    = quoteIdentifier (referenceParts r).1 ++ columnChars (referenceParts r).2 := by
  unfold referenceTokens referenceParts
  cases h : r.toList.dropWhile (· != '.') <;> simp [h, columnChars, Token.chars]

theorem referenceParts_injective : Function.Injective referenceParts := by
  have hsplit {r : String} {c : Char} {column : List Char}
      (h : r.toList.dropWhile (· != '.') = c :: column) :
      r.toList = r.toList.takeWhile (· != '.') ++ '.' :: column := by
    have hdot : c = '.' := by
      have hnot := List.head_dropWhile_not (· != '.') (l := r.toList) (by simp [h])
      simpa [h] using hnot
    calc r.toList = r.toList.takeWhile (· != '.') ++ r.toList.dropWhile (· != '.') :=
          List.takeWhile_append_dropWhile.symm
      _ = r.toList.takeWhile (· != '.') ++ '.' :: column := by rw [h, hdot]
  intro r s h
  unfold referenceParts at h
  split at h <;> split at h
  · rename_i hr _ _ _ hs
    obtain ⟨hfirst, hsecond⟩ := Prod.mk.inj h
    apply String.toList_inj.1
    rw [hsplit hr, hsplit hs, String.ofList_injective hfirst,
      String.ofList_injective (Option.some.inj hsecond)]
  · cases (Prod.mk.inj h).2
  · cases (Prod.mk.inj h).2
  · exact (Prod.mk.inj h).1

/-- What follows a reference. -/
def referenceEnds : List String := [" ", ",", "\n", ";"]

theorem legible_reference :
    Legible (Begins referenceEnds) fun r => renderChars (referenceTokens r) := by
  have hcolumn : Legible (Begins referenceEnds) columnChars :=
    (legible_quoteIdentifier.mono fun _ hr => hr.mono (by decide)).optional "." (by decide)
  refine (legible_quoteIdentifier.append hcolumn fun column r hr => ?_).of_eq referenceParts
    referenceParts_injective renderChars_referenceTokens
  cases column with
  | none => exact hr.mono (by decide)
  | some c => exact .append (.append (by decide) _) r

/-! ## Joins -/

theorem JoinType.eq_of_begins (t u : JoinType)
    (h : t.keyword.text.toList <+: u.keyword.text.toList) : t = u := by
  revert h
  cases t <;> cases u <;> decide

/-- What follows a join. -/
def joinEnds : List String := ["\n", ";"]

theorem legible_condition :
    Legible (Begins referenceEnds) fun c : JoinCondition => renderChars c.tokens := by
  refine (legible_reference.followedBy " = " legible_reference (by decide)).of_eq
    (fun c => (c.left, c.right)) ?_ fun c => ?_
  · rintro ⟨⟩ ⟨⟩ h
    cases h
    rfl
  · simp [JoinCondition.tokens, Token.chars]

theorem legible_conditions :
    Legible (Begins joinEnds) fun cs => renderChars (conditionTokens cs) := by
  have hconditions : Legible (Begins joinEnds) fun cs : List JoinCondition =>
      " AND".toList.intercalate (cs.map fun c => " ".toList ++ renderChars c.tokens) :=
    (legible_condition.after " ").intercalate (fun r => .append (by decide) r)
      (fun _ hr => hr.mono (by decide)) (fun _ s hr => hr.ne (begins_words _ s) (by decide))
      fun _ _ s hr => hr.ne ((begins_words _ _).append s) (by decide)
  refine hconditions.of_eq id Function.injective_id fun cs => ?_
  simp [conditionTokens, renderChars_intercalate, Token.chars, Keyword.text, Function.comp_def]

theorem legible_join : Legible (Begins joinEnds) fun j : Join => renderChars j.tokens := by
  have halias := legible_quoteIdentifier.followedBy " ON" legible_conditions (by decide)
  have htable := (legible_inSchema.followedBy " AS " halias (by decide)).after " JOIN "
  refine ((legible_words (P := anything) JoinType.eq_of_begins).append htable
    fun _ _ _ => trivial).of_eq
      (fun j => (j.type, (j.schema, j.table), j.asName, j.conditions)) ?_ fun j => ?_
  · rintro ⟨⟩ ⟨⟩ h
    cases h
    rfl
  · simp [Join.tokens, Token.chars, Keyword.text]

/-! ## Aliases -/

/-- An alias, where one is written. -/
def aliasChars (asName : Option String) : List Char :=
  asName.elim [] fun name => " AS ".toList ++ quoteIdentifier name

theorem legible_alias (ends : List String) (hmarks : ∀ p ∈ ends, Begins marks p.toList)
    (h : Apart ends [" AS "]) : Legible (Begins ends) aliasChars :=
  (legible_quoteIdentifier.mono fun _ hr => hr.mono hmarks).optional " AS " h

theorem begins_alias {ends starts : List String} (asName : Option String) {r : List Char}
    (hr : Begins ends r) (h : ∀ p ∈ " AS " :: ends, Begins starts p.toList) :
    Begins starts (aliasChars asName ++ r) := by
  cases asName with
  | none => exact hr.mono fun p hp => h p (.tail _ hp)
  | some name => exact ((h " AS " (.head _)).append _).append r

/-- What a statement tells of a column. -/
def ViewColumn.shown (c : ViewColumn) : String × Option String := (c.source, c.asName)

/-- The clause of a column, from what it tells. -/
def shownChars (x : String × Option String) : List Char :=
  renderChars (referenceTokens x.1) ++ aliasChars x.2

theorem ViewColumn.renderChars_tokens (c : ViewColumn) :
    renderChars c.tokens = shownChars c.shown := by
  unfold tokens shownChars shown aliasChars
  cases c.asName <;> simp [Token.chars, Keyword.text]

theorem legible_shown : Legible (Begins lineEnds) shownChars :=
  legible_reference.append (legible_alias lineEnds (by decide) (by decide))
    fun asName _ hr => begins_alias asName hr (by decide)

/-! ## Views -/

namespace View

/-- The alias of the table that a view reads first, where one is written. -/
def writtenAlias (v : View) : Option String :=
  if v.fromAlias != v.fromTable then some v.fromAlias else none

theorem getD_writtenAlias (v : View) : v.writtenAlias.getD v.fromTable = v.fromAlias := by
  unfold writtenAlias
  split <;> simp_all

/-- The condition on the rows, and the end of the statement. -/
def filterChars (filter : Option String) : List Char :=
  (filter.elim [] fun sql => "\nWHERE ".toList ++ sql.toList) ++ ";".toList

theorem legible_filter : Legible (· = []) filterChars := by
  have hnone (sql : String) : filterChars none ≠ filterChars (some sql) :=
    (begins_words ";" []).ne (((begins_words "\nWHERE " _).append _)) (by decide)
  rintro filter filter' _ _ rfl rfl heq
  rw [List.append_nil, List.append_nil] at heq
  cases filter with
  | none =>
    cases filter' with
    | none => exact ⟨rfl, rfl⟩
    | some sql => exact absurd heq (hnone sql)
  | some sql =>
    cases filter' with
    | none => exact absurd heq.symm (hnone sql)
    | some sql' =>
      have hsql := List.append_cancel_left (List.append_cancel_right heq)
      exact ⟨congrArg some (String.toList_inj.1 hsql), rfl⟩

theorem begins_filter (filter : Option String) (r : List Char) :
    Begins ["\nWHERE ", ";"] (filterChars filter ++ r) := by
  cases filter with
  | none => exact .append (by decide) r
  | some sql => exact .append (.append (.append (by decide) _) _) r

/-- The joins of a view, and what follows them. -/
def tailChars (joins : List Join) (filter : Option String) : List Char :=
  (joins.flatMap fun j => "\n".toList ++ renderChars j.tokens) ++ filterChars filter

theorem legible_tail : Legible (· = []) fun x : List Join × Option String => tailChars x.1 x.2 := by
  have hjoins : Legible (Begins ["\nWHERE ", ";"])
      fun joins : List Join => joins.flatMap fun j => "\n".toList ++ renderChars j.tokens := by
    refine (legible_join.after "\n").flatMap (fun j r => .append (.append (by decide) _) r)
      (fun r hr => hr.mono (by decide)) fun j r s hr => ?_
    have hjoin : Begins ["\nINNER", "\nLEFT"] ("\n".toList ++ renderChars j.tokens) := by
      unfold Join.tokens
      cases j.type <;> simp [Token.chars, Keyword.text, Begins, JoinType.keyword]
    exact hr.ne (hjoin.append s) (by decide)
  exact hjoins.append legible_filter fun filter r _ => begins_filter filter r

theorem begins_tail (joins : List Join) (filter : Option String) (r : List Char) :
    Begins joinEnds (tailChars joins filter ++ r) := by
  cases joins with
  | nil => exact (begins_filter filter r).mono (by decide)
  | cons j joins => exact .append (.append (.append (.append (by decide) _) _) _) r

/-- The text of the statement that creates a view, from what it tells. -/
def statement (name : String × String) (columns : List (String × Option String))
    (table : String × String) (asName : Option String) (joins : List Join)
    (filter : Option String) : List Char :=
  "CREATE OR REPLACE VIEW ".toList ++ (renderChars (inSchema name.1 name.2)
    ++ (" AS SELECT".toList
      ++ (",".toList.intercalate (columns.map fun c => "\n  ".toList ++ shownChars c)
        ++ ("\nFROM ".toList ++ (renderChars (inSchema table.1 table.2)
          ++ (aliasChars asName ++ tailChars joins filter))))))

theorem legible_statement : Legible (· = []) fun x : (String × String) ×
    List (String × Option String) × (String × String) × Option String × List Join × Option String =>
      statement x.1 x.2.1 x.2.2.1 x.2.2.2.1 x.2.2.2.2.1 x.2.2.2.2.2 := by
  have halias := (legible_alias joinEnds (by decide) (by decide)).append legible_tail
    fun x r _ => begins_tail x.1 x.2 r
  have hfrom := legible_inSchema.append halias fun x r _ => by
    rw [List.append_assoc]
    exact begins_alias x.1 (begins_tail x.2.1 x.2.2 r) (by decide)
  have hcolumns := (legible_shown.lines ["\nFROM "] (by decide)).followedBy "\nFROM " hfrom
    (by decide)
  exact (legible_inSchema.followedBy " AS SELECT" hcolumns (by decide)).after
    "CREATE OR REPLACE VIEW "

theorem renderChars_tokens (v : View) : renderChars v.tokens
    = statement (v.schema, v.name) (v.columns.map ViewColumn.shown) (v.fromSchema, v.fromTable)
      v.writtenAlias v.joins v.filter := by
  have hfrom : renderChars v.fromTokens = "FROM ".toList
      ++ (renderChars (inSchema v.fromSchema v.fromTable) ++ aliasChars v.writtenAlias) := by
    unfold fromTokens writtenAlias aliasChars
    split <;> simp [Token.chars, Keyword.text]
  have htail : renderChars (v.joins.flatMap (fun j => .newline :: j.tokens) ++ v.filterTokens
      ++ [.semicolon]) = tailChars v.joins v.filter := by
    unfold filterTokens tailChars filterChars
    cases v.filter <;> simp [Token.chars, Keyword.text]
  unfold tokens statement
  simp only [renderChars_append, renderChars_cons, List.append_assoc] at htail ⊢
  rw [htail, hfrom, renderChars_lines]
  simp [phrase, Token.chars, Keyword.text, ViewColumn.renderChars_tokens, Function.comp_def]

/-- Views with the same text are the same, but for the names under which their columns are known. -/
theorem sql_eq_iff_shown (v w : View) : v.sql = w.sql ↔
    { v with columns := [] } = { w with columns := [] }
      ∧ v.columns.map ViewColumn.shown = w.columns.map ViewColumn.shown := by
  constructor
  · intro h
    have htext : renderChars v.tokens = renderChars w.tokens := String.ofList_injective h
    rw [renderChars_tokens, renderChars_tokens] at htext
    obtain ⟨hsame, -⟩ := @legible_statement
      ((v.schema, v.name), v.columns.map ViewColumn.shown, (v.fromSchema, v.fromTable),
        v.writtenAlias, v.joins, v.filter)
      ((w.schema, w.name), w.columns.map ViewColumn.shown, (w.fromSchema, w.fromTable),
        w.writtenAlias, w.joins, w.filter) [] [] rfl rfl (by simpa using htext)
    simp only [Prod.mk.injEq] at hsame
    obtain ⟨⟨hschema, hname⟩, hcolumns, ⟨hfromSchema, hfromTable⟩, halias, hjoins, hfilter⟩ := hsame
    have hfromAlias : v.fromAlias = w.fromAlias := by
      rw [← getD_writtenAlias, ← getD_writtenAlias w, halias, hfromTable]
    exact ⟨by rw [hschema, hname, hfromSchema, hfromTable, hfromAlias, hjoins, hfilter], hcolumns⟩
  · rintro ⟨hrest, hcolumns⟩
    cases v
    cases w
    cases hrest
    exact congrArg String.ofList (by rw [renderChars_tokens, renderChars_tokens, hcolumns]; rfl)

end View

end Schemata.Sql
