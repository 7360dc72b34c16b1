import Schemata.Proofs.NameMap
import Schemata.Proofs.Step

/-!
# The pieces of a schema

What a compilation writes is one list of pieces: tables with their sources, then views with the
names of their entities. A piece has an entry in the order of the schema, bytes that its writer
returns, and a place on the shelf of its kind. The four shelves are read through `Schema.piece?`
alone, so that storing a piece is one statement and not four.

## Main definitions

* `Piece`, `Piece.entry`, `Piece.write`: a piece, its entry, and its bytes.
* `writeAll`, `Compiler.writePieces`: writing pieces, without hooks and with them.
* `Schema.put`, `Schema.piece?`: storing a piece, and what an entry stands for.

## Main statements

* `Schema.piece?_put`: storing a piece changes what its own entry stands for, and nothing else.
* `Schema.piece?_putAll_eq_some`: where entries do not repeat, what is found is what was stored.
* `yields_writeAll`: what is stored in the end.
* `Compiler.writeTables_eq`, `Compiler.writeViews_eq`: tables and views are written as pieces.
-/

namespace Schemata.Emission

open Lowering Spec Sql

variable {σ : Type}

/-! ## Shelves -/

theorem Shelf.find?_add {α : Type} (s : Shelf α) (source name source' name' : String)
    (a : Artifact α) : Shelf.find? (Shelf.add s source name a) source' name' =
      if source' = source ∧ name' = name then some a else Shelf.find? s source' name' := by
  unfold Shelf.find? Shelf.add
  rw [NameMap.get?_insert]
  by_cases hs : source' = source
  · subst hs
    by_cases hn : name' = name
    · simp [hn]
    · cases hget : NameMap.get? s source' <;> simp [hn, NameMap.get?_insert]
  · simp [hs]

/-! ## Pieces -/

/-- Something that a compilation writes: a table with its source, or the view of an entity. -/
inductive Piece where
  | table (p : Product)
  | view (name : String) (v : View)
  deriving DecidableEq

/-- The entry of a piece in the order of a schema. -/
def Piece.entry : Piece → Emitted
  | .table p => ⟨p.source.kind, p.source.name, p.table.name⟩
  | .view name v => ⟨.entity, name, v.name⟩

/-- The table of a piece that is one. -/
def Piece.table? : Piece → Option Table
  | .table p => some p.table
  | .view .. => none

/-- The view of a piece that is one. -/
def Piece.view? : Piece → Option View
  | .table _ => none
  | .view _ v => some v

/-- Ask the writer of its kind for the bytes of a piece. The rows of an enumeration come after its
table. -/
def Piece.write (w : Writers σ) : Piece → Step σ Bytes
  | .table p => do
    let writer ← Step.ofExcept (w.forKind p.source.kind)
    Step.inUnit p.source.kind p.source.name do
      let bytes ← Step.ofWrite (writer.table p.table)
      match p.source with
      | .enumeration _ seed => return bytes ++ (← Step.ofWrite (writer.seed seed))
      | .model _ | .structures => return bytes
  | .view name v => Step.inUnit .entity name (Step.ofWrite (w.entities.view v))

namespace Schema

/-- The schema with one more piece. -/
def put (s : Schema) : Piece → Bytes → Schema
  | .table p, bytes => Compiler.record s p.source p.table bytes
  | .view name v, bytes => s.addEntity name ⟨v, bytes⟩

/-- The schema with more pieces, each with its bytes. -/
def putAll (s : Schema) (l : List (Piece × Bytes)) : Schema := l.foldl (fun s x => s.put x.1 x.2) s

/-- The piece that an entry stands for, with its bytes. -/
def piece? (s : Schema) (e : Emitted) : Option (Piece × Bytes) :=
  match e.kind with
  | .model => (s.models.find? e.source e.artifact).map fun a =>
    (.table ⟨a.object, .model e.source⟩, a.bytes)
  | .enumeration => (s.enumerations.find? e.source e.artifact).map fun a =>
    (.table ⟨a.object.table, .enumeration e.source a.object.seed⟩, a.bytes)
  | .entity => (s.entities.find? e.source e.artifact).map fun a =>
    (.view e.source a.object, a.bytes)
  | .record => (s.structures.find? e.source e.artifact).map fun a =>
    (.table ⟨a.object, .structures⟩, a.bytes)

/-- The table that an entry stands for. -/
def table? (s : Schema) (e : Emitted) : Option Table := (s.piece? e).bind fun x => x.1.table?

/-- The view that an entry stands for. -/
def view? (s : Schema) (e : Emitted) : Option View := (s.piece? e).bind fun x => x.1.view?

theorem bytes?_eq (s : Schema) (e : Emitted) : s.bytes? e = (s.piece? e).map (·.2) := by
  unfold bytes? piece?
  cases e.kind <;> simp [Function.comp_def]

@[simp] theorem order_put (s : Schema) (p : Piece) (bytes : Bytes) :
    (s.put p bytes).order = s.order ++ [p.entry] := by
  cases p with
  | view name v => rfl
  | table p =>
    obtain ⟨t, source⟩ := p
    cases source <;> rfl

/-- Storing a piece changes what its own entry stands for, and nothing else. -/
theorem piece?_put (s : Schema) (p : Piece) (bytes : Bytes) (e : Emitted) :
    (s.put p bytes).piece? e = if e = p.entry then some (p, bytes) else s.piece? e := by
  obtain ⟨kind, source, artifact⟩ := e
  -- a piece touches the shelf of its own kind alone; there the place decides
  cases p with
  | view name v =>
    cases kind <;> grind [put, piece?, addEntity, Piece.entry, Shelf.find?_add]
  | table p =>
    obtain ⟨t, src⟩ := p
    cases src <;> cases kind <;>
      grind [put, piece?, Compiler.record, addModel, addEnumeration, addStructures, Piece.entry,
        Shelf.find?_add, Source.kind, Source.name]

/-! ## Lists of pieces -/

@[simp] theorem putAll_cons (s : Schema) (x : Piece × Bytes) (l : List (Piece × Bytes)) :
    s.putAll (x :: l) = (s.put x.1 x.2).putAll l := rfl

theorem order_putAll (s : Schema) (l : List (Piece × Bytes)) :
    (s.putAll l).order = s.order ++ l.map (·.1.entry) := by
  induction l generalizing s with
  | nil => simp [putAll]
  | cons x l ih => simp [ih]

theorem piece?_putAll_of_notMem (s : Schema) (l : List (Piece × Bytes)) {e : Emitted}
    (h : e ∉ l.map (·.1.entry)) : (s.putAll l).piece? e = s.piece? e := by
  induction l generalizing s with
  | nil => rfl
  | cons x l ih =>
    obtain ⟨hne, hrest⟩ : e ≠ x.1.entry ∧ e ∉ l.map (·.1.entry) := by simpa using h
    rw [putAll_cons, ih _ hrest, piece?_put, if_neg hne]

/-- Where entries do not repeat, every piece of a list is found with its bytes. -/
theorem piece?_putAll (s : Schema) {l : List (Piece × Bytes)} (hn : (l.map (·.1.entry)).Nodup)
    {x : Piece × Bytes} (hx : x ∈ l) : (s.putAll l).piece? x.1.entry = some x := by
  induction l generalizing s with
  | nil => cases hx
  | cons y l ih =>
    obtain ⟨hnot, hrest⟩ := List.nodup_cons.1 hn
    rcases List.mem_cons.1 hx with rfl | hx
    · rw [putAll_cons, piece?_putAll_of_notMem _ _ hnot, piece?_put, if_pos rfl]
    · exact ih _ hrest hx

theorem piece?_empty (e : Emitted) : ({} : Schema).piece? e = none := by
  unfold piece?
  cases e.kind <;> rfl

/-- Where entries do not repeat, what is found in the end is what was stored. -/
theorem piece?_putAll_eq_some {l : List (Piece × Bytes)} (hn : (l.map (·.1.entry)).Nodup)
    {e : Emitted} {x : Piece × Bytes} :
    (({} : Schema).putAll l).piece? e = some x ↔ x ∈ l ∧ e = x.1.entry := by
  constructor
  · intro h
    by_cases he : e ∈ l.map (·.1.entry)
    · obtain ⟨y, hy, rfl⟩ := List.mem_map.1 he
      rw [piece?_putAll _ hn hy] at h
      cases h
      exact ⟨hy, rfl⟩
    · rw [piece?_putAll_of_notMem _ _ he, piece?_empty] at h
      cases h
  · rintro ⟨hx, rfl⟩
    exact piece?_putAll _ hn hx

end Schema

/-! ## Writing -/

/-- Write pieces one after the other, and store each with its bytes. -/
def writeAll (w : Writers σ) : List Piece → Schema → Step σ Schema
  | [], s => pure s
  | p :: rest, s => do
    let bytes ← p.write w
    writeAll w rest (s.put p bytes)

/-- What is stored in the end is every piece, with the bytes that the writers returned for it. -/
theorem yields_writeAll {w : Writers σ} {ps : List Piece} {s s' : Schema} {st st' : σ}
    (h : (writeAll w ps s).Yields st s' st') :
    ∃ bytes, (ps.mapM (Piece.write w)).Yields st bytes st' ∧ bytes.length = ps.length
      ∧ s' = s.putAll (ps.zip bytes) := by
  induction ps generalizing s st with
  | nil =>
    obtain ⟨rfl, rfl⟩ := Step.yields_pure.1 h
    exact ⟨[], Step.yields_pure.2 ⟨rfl, rfl⟩, rfl, rfl⟩
  | cons p ps ih =>
    obtain ⟨b, mid, hb, hrest⟩ := Step.yields_bind.1 h
    obtain ⟨bytes, hbytes, hlen, rfl⟩ := ih hrest
    refine ⟨b :: bytes, ?_, by simp [hlen], rfl⟩
    rw [List.mapM_cons]
    exact Step.yields_bind.2 ⟨b, mid, hb, Step.yields_bind.2
      ⟨bytes, st', hbytes, Step.yields_pure.2 ⟨rfl, rfl⟩⟩⟩

namespace Compiler

/-- Write a piece with the hooks of a compiler around it. -/
def writePiece (c : Compiler σ) (w : Writers σ) : Piece → Step σ Bytes
  | .table p => do
    let writer ← Step.ofExcept (w.forKind p.source.kind)
    Step.inUnit p.source.kind p.source.name (c.writeTable writer p.table p.source.seed?)
  | .view name v => Step.inUnit .entity name (c.writeView w.entities v)

/-- Write pieces one after the other, with the hooks of a compiler around each. -/
def writePieces (c : Compiler σ) (w : Writers σ) : List Piece → Schema → Step σ Schema
  | [], s => pure s
  | p :: rest, s => do
    let bytes ← c.writePiece w p
    c.writePieces w rest (s.put p bytes)

theorem writePieces_append (c : Compiler σ) (w : Writers σ) (ps qs : List Piece) (s : Schema) :
    c.writePieces w (ps ++ qs) s = c.writePieces w ps s >>= c.writePieces w qs := by
  induction ps generalizing s with
  | nil => simp [writePieces]
  | cons p ps ih => simp [writePieces, ih]

/-- Tables are written as pieces when each is looked up under a name of its own. -/
theorem writeTables_eq (c : Compiler σ) (w : Writers σ) {ps : List Product}
    {sources : NameMap Source} (s : Schema)
    (hnames : (ps.map (·.table.qualifiedName)).Nodup)
    (hsources : ∀ p ∈ ps, sources.get? p.table.qualifiedName = some p.source) :
    c.writeTables w (ps.map (·.table)) sources s = c.writePieces w (ps.map .table) s := by
  induction ps generalizing sources s with
  | nil => rfl
  | cons p ps ih =>
    obtain ⟨hnot, hrest⟩ := List.nodup_cons.1 hnames
    have hsources' : ∀ q ∈ ps, (sources.erase p.table.qualifiedName).get? q.table.qualifiedName
        = some q.source := by
      intro q hq
      have hne : q.table.qualifiedName ≠ p.table.qualifiedName := fun heq =>
        hnot (List.mem_map.2 ⟨q, hq, heq⟩)
      rw [NameMap.get?_erase_ne _ hne]
      exact hsources q (List.mem_cons_of_mem _ hq)
    simp only [List.map_cons, writeTables, hsources p List.mem_cons_self, writePieces, writePiece,
      bind_assoc]
    refine bind_congr fun writer => bind_congr fun bytes => ?_
    exact ih _ hrest hsources'

/-- Views are written as pieces. -/
theorem writeViews_eq (c : Compiler σ) (w : Writers σ) (views : List (String × View))
    (s : Schema) : c.writeViews w views s
      = c.writePieces w (views.map fun x => .view x.1 x.2) s := by
  induction views generalizing s with
  | nil => rfl
  | cons x views ih =>
    simp only [writeViews, List.map_cons, writePieces, writePiece]
    exact bind_congr fun bytes => ih _

/-- Without hooks a piece is left to its writer. -/
theorem writePiece_ofSettings (settings : Settings) (w : Writers σ) (p : Piece) :
    (ofSettings settings : Compiler σ).writePiece w p = p.write w := by
  cases p with
  | table p =>
    obtain ⟨t, source⟩ := p
    cases source <;> exact bind_congr fun writer => congrArg _ (UnitHooks.run_none ..)
  | view name v => exact congrArg (Step.inUnit .entity name) (UnitHooks.run_none ..)

theorem writePieces_ofSettings (settings : Settings) (w : Writers σ) (ps : List Piece) :
    (ofSettings settings : Compiler σ).writePieces w ps = writeAll w ps := by
  funext s
  induction ps generalizing s with
  | nil => rfl
  | cons p ps ih => simp only [writePieces, writeAll, writePiece_ofSettings, ih]

end Compiler

theorem writeAll_append (w : Writers σ) (ps qs : List Piece) (s : Schema) :
    writeAll w (ps ++ qs) s = writeAll w ps s >>= writeAll w qs := by
  have h := Compiler.writePieces_append (.ofSettings {}) w ps qs s
  simpa only [Compiler.writePieces_ofSettings] using h

end Schemata.Emission
