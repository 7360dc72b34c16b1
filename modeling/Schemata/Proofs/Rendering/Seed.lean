import Schemata.Proofs.Rendering.Legible
import Schemata.Sql.Seed

/-!
# Seeds in their statements

Each row of a seed is inserted by a statement that names the table and the columns again. A
statement ends with the parenthesis behind its last value, and no value can bring its end forward:
the quotes inside a value are written twice, so that a value is left only where it ends. A text
therefore tells its statements, and the first of them tells all of the seed but its rows.

## Main definitions

* `Insertion`: what the statement of one row says.
* `Seed.insertions`: what the statements of a seed say.

## Main statements

* `legible_insertion`, `legible_insertions`: statements that insert rows are legible.
* `Seed.sql_inj_of_rows`: seeds with the same text are the same, if they have any rows.
-/

namespace Schemata.Sql

/-- What the statement of one row says. -/
structure Insertion where
  schema : String
  table : String
  columns : List String
  row : List String

/-- The text of the statement of one row. -/
def Insertion.chars (i : Insertion) : List Char :=
  "INSERT INTO ".toList ++ (renderChars (inSchema i.schema i.table) ++ (" ".toList
    ++ (renderChars (nameList i.columns) ++ (" VALUES ".toList
      ++ (renderChars (parenthesized (i.row.map fun v => [.literal v])) ++ ";".toList)))))

theorem legible_values : Legible anything
    fun row : List String => renderChars (parenthesized (row.map fun v => [.literal v])) := by
  refine Legible.parenthesized (f := fun v => [Token.literal v]) ?_ fun v r s hr => ?_
  · simpa [Token.chars] using legible_quoteLiteral
  · have hvalue : Begins ["'"] (renderChars [Token.literal v] ++ s) := ⟨"'", by decide, by
      simp [Token.chars, quoteLiteral, quoted, singleQuote]⟩
    exact hr.ne hvalue (by decide)

theorem legible_insertion : Legible anything Insertion.chars := by
  have hvalues := (legible_values.before (P := anything) ";" fun _ _ => trivial).after " VALUES "
  have hcolumns := legible_nameList.append hvalues fun _ _ _ => trivial
  have htable := (legible_inSchema.followedBy " " hcolumns (by decide)).after "INSERT INTO "
  refine htable.of_eq (fun i => ((i.schema, i.table), i.columns, i.row)) ?_ fun _ => rfl
  rintro ⟨⟩ ⟨⟩ h
  cases h
  rfl

theorem legible_insertions : Legible (· = [])
    fun is : List Insertion => "\n".toList.intercalate (is.map Insertion.chars) := by
  refine legible_insertion.intercalate (fun _ => trivial) (fun _ _ => trivial) ?_ ?_
  · rintro _ s rfl
    simp
  · rintro i _ s rfl h
    have hbegins : Begins ["INSERT INTO "] (i.chars ++ s) := (begins_words _ _).append s
    rw [← h] at hbegins
    exact absurd hbegins (by decide)

namespace Seed

/-- What the statements of a seed say. -/
def insertions (s : Seed) : List Insertion := s.rows.map (⟨s.schema, s.table, s.columns, ·⟩)

theorem renderChars_tokens (s : Seed) :
    renderChars s.tokens = "\n".toList.intercalate (s.insertions.map Insertion.chars) := by
  have hrow (row : List String) : renderChars (s.rowTokens row)
      = (⟨s.schema, s.table, s.columns, row⟩ : Insertion).chars := by
    unfold rowTokens Insertion.chars
    simp [phrase, Token.chars, Keyword.text]
  simp [tokens, insertions, renderChars_intercalate, Token.chars, Function.comp_def, hrow]

/-- Seeds with the same statements are the same, if there are any. -/
theorem eq_of_insertions {s t : Seed} (hs : s.rows ≠ []) (h : s.insertions = t.insertions) :
    s = t := by
  obtain ⟨schema, table, columns, rows⟩ := s
  obtain ⟨schema', table', columns', rows'⟩ := t
  have hrows : rows = rows' := by
    simpa [insertions, Function.comp_def] using congrArg (List.map Insertion.row) h
  subst hrows
  cases rows with
  | nil => exact absurd rfl hs
  | cons row rows =>
    cases (List.cons.inj h).1
    rfl

/-- Seeds with the same text are the same, if there are any rows. -/
theorem sql_inj_of_rows {s t : Seed} (hs : s.rows ≠ []) : s.sql = t.sql ↔ s = t := by
  refine ⟨fun h => ?_, fun h => h ▸ rfl⟩
  have htext : renderChars s.tokens = renderChars t.tokens := String.ofList_injective h
  rw [renderChars_tokens, renderChars_tokens] at htext
  obtain ⟨hsame, -⟩ := @legible_insertions s.insertions t.insertions [] [] rfl rfl
    (by simpa using htext)
  exact eq_of_insertions hs hsame

namespace Sample

/-- Rows with a name and a note. -/
def ofRows (rows : List (List String)) : Seed := ⟨"public", "T", ["name", "note"], rows⟩

/-- One row, whose note would end the statement and begin another. -/
def injected : Seed := ofRows [["a", "b');\nINSERT INTO public.\"T\" (name, note) VALUES ('c', 'd"]]

/-- The two rows that would be inserted. -/
def separate : Seed := ofRows [["a", "b"], ["c", "d"]]

end Sample

theorem sql_ne_separate :
    Sample.injected.rows ≠ [] ∧ Sample.injected.sql ≠ Sample.separate.sql := by
  have hrows : Sample.injected.rows ≠ [] := by decide
  exact ⟨hrows, (sql_inj_of_rows hrows).not.2 (by decide)⟩

end Seed

end Schemata.Sql
