import Schemata.Sql.Table

/-!
# Order of creation

Tables are created after the tables they refer to. Of the tables that can come next, the one with
the least name comes first, so the order depends on the set of tables alone. A reference of a table
to itself asks for nothing, and neither does a reference to a table outside the batch.

## Main definitions

* `Table.dependsOn`: one table has to wait for another.
* `Progress`, `Progress.step`: the tables created so far, those that can come next, and those that
  wait, each with the number of tables it waits for.
* `inOrder`: the tables in their order.
* `onCycle`: the tables that wait for each other.
-/

namespace Schemata.Sql

/-- What tells a table from the others: its schema and its name. -/
def Table.key (t : Table) : String × String := (t.schema, t.name)

/-- Whether a table has to wait for another: it holds a key that refers to it and is not a
reference to the key's own table. -/
def Table.dependsOn (t u : Table) : Bool :=
  t.foreignKeys.any fun k => !k.isSelfReference && k.refSchema == u.schema && k.refTable == u.name

/-- Whether a table comes before another when both can come next. -/
def Table.before (t u : Table) : Bool :=
  t.name < u.name || (t.name == u.name && t.schema < u.schema)

/-- Why tables cannot be put in order. -/
inductive OrderError where
  /-- Some tables wait for each other. -/
  | cycle (tables : List String)
  /-- Two tables have one name. -/
  | duplicate (table : String)
  deriving DecidableEq, Repr

/-- The text of an error. -/
def OrderError.message : OrderError → String
  | .cycle tables =>
    "Circular foreign key dependency between tables: " ++ ", ".intercalate tables
  | .duplicate table => "Table " ++ table ++ " is produced more than once"

/-- The first table whose key occurred before. -/
def firstRepeated (seen : List (String × String)) : List Table → Option Table
  | [] => none
  | t :: rest => if seen.contains t.key then some t else firstRepeated (t.key :: seen) rest

/-! ## Creating one table after the other -/

/-- A table that waits, and for how many tables it does. -/
structure Waiting where
  table : Table
  count : Nat
  deriving DecidableEq, Repr

/-- How far the creation of a batch has come. -/
structure Progress where
  /-- The tables created, in order. -/
  created : List Table
  /-- The tables that can come next, in order. -/
  ready : List Table
  /-- The tables that wait for others. -/
  waiting : List Waiting
  deriving Repr

/-- Put a table in its place among those that can come next. -/
def insertReady (t : Table) : List Table → List Table
  | [] => [t]
  | u :: rest => if t.before u then t :: u :: rest else u :: insertReady t rest

/-- Put tables in their places among those that can come next. -/
def insertAllReady (ts : List Table) (ready : List Table) : List Table :=
  ts.foldr insertReady ready

/-- The number of tables of a batch that a table waits for. -/
def waitCount (batch : List Table) (t : Table) : Nat := (batch.filter t.dependsOn).length

/-- The beginning: nothing is created, and the tables that wait for none can come next. -/
def Progress.start (batch : List Table) : Progress :=
  let all := batch.map fun t => Waiting.mk t (waitCount batch t)
  { created := []
    ready := insertAllReady ((all.filter (·.count == 0)).map (·.table)) []
    waiting := all.filter (·.count != 0) }

/-- What is left to wait for after a table is created. -/
def Waiting.after (t : Table) (w : Waiting) : Waiting :=
  if w.table.dependsOn t then { w with count := w.count - 1 } else w

/-- Create a table that can come next; those that waited for it alone join the others. -/
def Progress.step (p : Progress) (t : Table) (rest : List Table) : Progress :=
  let waiting := p.waiting.map (·.after t)
  { created := p.created ++ [t]
    ready := insertAllReady ((waiting.filter (·.count == 0)).map (·.table)) rest
    waiting := waiting.filter (·.count != 0) }

/-- How many tables are not created yet. -/
def Progress.remaining (p : Progress) : Nat := p.ready.length + p.waiting.length

theorem length_insertReady (t : Table) (ready : List Table) :
    (insertReady t ready).length = ready.length + 1 := by
  induction ready with
  | nil => rfl
  | cons u rest ih =>
    unfold insertReady
    split <;> simp [ih]

theorem length_insertAllReady (ts ready : List Table) :
    (insertAllReady ts ready).length = ts.length + ready.length := by
  induction ts with
  | nil => simp [insertAllReady]
  | cons t ts ih =>
    have : (insertAllReady (t :: ts) ready) = insertReady t (insertAllReady ts ready) := rfl
    rw [this, length_insertReady, ih, List.length_cons]
    omega

/-- Tables that wait for none and tables that wait for some are all tables. -/
theorem length_filter_count (ws : List Waiting) :
    (ws.filter (·.count == 0)).length + (ws.filter (·.count != 0)).length = ws.length := by
  induction ws with
  | nil => rfl
  | cons w ws ih =>
    by_cases h : w.count = 0 <;> simp [h] <;> omega

/-- A step creates one table. -/
theorem Progress.remaining_step (p : Progress) (t : Table) (rest : List Table)
    (h : p.ready = t :: rest) : (p.step t rest).remaining + 1 = p.remaining := by
  have hcount := length_filter_count (p.waiting.map (·.after t))
  simp only [Progress.remaining, Progress.step, length_insertAllReady, List.length_map, h,
    List.length_cons] at hcount ⊢
  omega

/-- Create tables while some can come next. -/
def Progress.finish (p : Progress) : Progress :=
  match _h : p.ready with
  | [] => p
  | t :: rest => (p.step t rest).finish
termination_by p.remaining
decreasing_by
  have := p.remaining_step t rest _h
  omega

/-! ## Tables that wait for each other -/

/-- The tables that a table has to wait for. -/
def Table.awaited (t : Table) (ts : List Table) : List Table := ts.filter t.dependsOn

/-- The tables that a table need not wait for. -/
def Table.unawaited (t : Table) (ts : List Table) : List Table := ts.filter fun u => !t.dependsOn u

theorem Table.length_awaited (t : Table) (ts : List Table) :
    (t.awaited ts).length + (t.unawaited ts).length = ts.length := by
  unfold awaited unawaited
  induction ts with
  | nil => rfl
  | cons u ts ih =>
    by_cases h : t.dependsOn u <;> simp [h] <;> omega

/-- The tables to look at, and all that they wait for among the tables not met so far, directly or
through others. -/
def follow (unmet : List Table) : List Table → List Table
  | [] => []
  | t :: rest => t :: follow (t.unawaited unmet) (t.awaited unmet ++ rest)
termination_by look => unmet.length + look.length
decreasing_by
  have := t.length_awaited unmet
  simp only [List.length_append, List.length_cons]
  omega

/-- What a table waits for, directly or through others, and the table itself. -/
def reach (batch : List Table) (t : Table) : List Table :=
  follow (batch.filter (·.key != t.key)) [t]

/-- Whether two tables, each given with what it waits for, are distinct and wait for each other. -/
def waitMutually (a b : Table × List Table) : Bool :=
  a.1.key != b.1.key && a.2.any (·.key == b.1.key) && b.2.any (·.key == a.1.key)

/-- The qualified names of the tables that wait for each other, in order. -/
def onCycle (batch : List Table) : List String :=
  let reaches := batch.map fun t => (t, reach batch t)
  ((reaches.filter fun a => reaches.any (waitMutually a)).map
    (·.1.qualifiedName)).mergeSort fun a b => decide (a ≤ b)

/-- The tables of a batch in the order of their creation. -/
def inOrder (batch : List Table) : Except OrderError (List Table) :=
  match firstRepeated [] batch with
  | some t => .error (.duplicate t.qualifiedName)
  | none =>
    let final := (Progress.start batch).finish
    if final.created.length < batch.length then .error (.cycle (onCycle batch))
    else .ok final.created

end Schemata.Sql
