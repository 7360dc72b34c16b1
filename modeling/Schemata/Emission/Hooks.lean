import Schemata.Lowering.EntityView
import Schemata.Lowering.LookupTable
import Schemata.Lowering.StructureTable

/-!
# Hooks

A unit of a compilation can be watched and changed from outside. A hook at the start may change the
settings and the input of the unit, a hook at success its output, and a hook at failure the error.
Hooks may keep a state of their own, of any type.

## Main definitions

* `Step`: a computation with a state, which may fail.
* `UnitHooks.run`: a unit with its hooks around it.
-/

namespace Schemata.Emission

open Lowering Spec Sql Settings

/-- A computation with a state that may fail; the state is kept when it does. -/
abbrev Step (σ α : Type) : Type := ExceptT CompileError (StateM σ) α

/-- The bytes in which an object is written. -/
abbrev Bytes := ByteArray

/-- A computation without a state, as a step. -/
def Step.ofExcept {σ α : Type} (x : Except CompileError α) : Step σ α := ExceptT.mk (pure x)

/-- Put a failure inside the unit that failed. -/
def Step.inUnit {σ α : Type} (kind : Kind) (name : String) (x : Step σ α) : Step σ α :=
  ExceptT.mk do
    match ← x.run with
    | .ok a => return .ok a
    | .error e => return .error (.inUnit kind name e)

/-- The hooks around one kind of unit: with settings `C`, input `I` and output `O`. -/
structure UnitHooks (σ C I O : Type) where
  onStart : Option (C → I → Step σ (C × I)) := none
  onSuccess : Option (O → Step σ O) := none
  onFailure : Option (C → I → CompileError → StateM σ CompileError) := none

namespace UnitHooks

variable {σ C I O : Type}

/-- What the start hook makes of settings and input. -/
def start (h : UnitHooks σ C I O) (c : C) (i : I) : Step σ (C × I) :=
  match h.onStart with
  | some hook => hook c i
  | none => pure (c, i)

/-- What the success hook makes of an output. -/
def success (h : UnitHooks σ C I O) (o : O) : Step σ O :=
  match h.onSuccess with
  | some hook => hook o
  | none => pure o

/-- What the failure hook makes of an error. -/
def failure (h : UnitHooks σ C I O) (c : C) (i : I) (e : CompileError) :
    StateM σ CompileError :=
  match h.onFailure with
  | some hook => hook c i e
  | none => pure e

/-- Run a unit with its hooks around it. The failure hook sees settings and input as the unit saw
them, or as they were given when the start hook itself fails. -/
def run (h : UnitHooks σ C I O) (c : C) (i : I) (unit : C → I → Step σ O) : Step σ O :=
  ExceptT.mk do
    match ← (h.start c i).run with
    | .error e => return .error (← h.failure c i e)
    | .ok (c, i) =>
      match ← (unit c i >>= h.success).run with
      | .error e => return .error (← h.failure c i e)
      | .ok o => return .ok o

end UnitHooks

/-- The hooks around every kind of unit. Writing takes no settings. -/
structure Hooks (σ : Type) where
  model : UnitHooks σ ModelSettings Model ModelTables := {}
  enumeration : UnitHooks σ EnumerationSettings Enumeration LookupTable := {}
  entity : UnitHooks σ EntitySettings Entity View := {}
  structures : UnitHooks σ StructureSettings Unit (Option Table) := {}
  writeTable : UnitHooks σ Unit Table Bytes := {}
  writeView : UnitHooks σ Unit View Bytes := {}

end Schemata.Emission
