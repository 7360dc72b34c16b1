import Schemata.Emission.Writer
import Schemata.Text.Utf8

/-!
# Emitted schemas

What a compilation produces: every object with its bytes, by the kind and name of the specification
it comes from, and the order in which they were written.
-/

namespace Schemata.Emission

open Lowering Spec Sql

/-- An object with the bytes it was written as. -/
structure Artifact (α : Type) where
  object : α
  bytes : Bytes

/-- Objects by the name of their source, and then by their own. -/
abbrev Shelf (α : Type) := NameMap (NameMap (Artifact α))

/-- The shelf with one more object. -/
def Shelf.add {α : Type} (s : Shelf α) (source name : String) (a : Artifact α) : Shelf α :=
  s.insert source (((s.get? source).getD {}).insert name a)

/-- The object of a source and a name. -/
def Shelf.find? {α : Type} (s : Shelf α) (source name : String) : Option (Artifact α) :=
  (s.get? source).bind fun artifacts => artifacts.get? name

/-- An object that was written: the kind and name of its source, and its own name. -/
structure Emitted where
  kind : Kind
  source : String
  artifact : String
  deriving DecidableEq, Repr

/-- Everything that a compilation produced. -/
structure Schema where
  models : Shelf Table := {}
  enumerations : Shelf LookupTable := {}
  entities : Shelf View := {}
  structures : Shelf Table := {}
  /-- Tables in the order of their creation, then views. -/
  order : List Emitted := []

namespace Schema

/-- The bytes of an object. -/
def bytes? (s : Schema) (e : Emitted) : Option Bytes :=
  match e.kind with
  | .model => (s.models.find? e.source e.artifact).map (·.bytes)
  | .enumeration => (s.enumerations.find? e.source e.artifact).map (·.bytes)
  | .entity => (s.entities.find? e.source e.artifact).map (·.bytes)
  | .record => (s.structures.find? e.source e.artifact).map (·.bytes)

/-- The text of everything that was written, in order. -/
def script (s : Schema) : String :=
  "\n".intercalate ((s.order.filterMap s.bytes?).map Text.decodeLossy)

/-- The schema with a table of a model. -/
def addModel (s : Schema) (source : String) (a : Artifact Table) : Schema :=
  { s with
    models := s.models.add source a.object.name a
    order := s.order ++ [⟨.model, source, a.object.name⟩] }

/-- The schema with the table of an enumeration. -/
def addEnumeration (s : Schema) (source : String) (a : Artifact LookupTable) : Schema :=
  { s with
    enumerations := s.enumerations.add source a.object.table.name a
    order := s.order ++ [⟨.enumeration, source, a.object.table.name⟩] }

/-- The schema with the view of an entity. -/
def addEntity (s : Schema) (source : String) (a : Artifact View) : Schema :=
  { s with
    entities := s.entities.add source a.object.name a
    order := s.order ++ [⟨.entity, source, a.object.name⟩] }

/-- The schema with the table of structures. -/
def addStructures (s : Schema) (source : String) (a : Artifact Table) : Schema :=
  { s with
    structures := s.structures.add source a.object.name a
    order := s.order ++ [⟨.record, source, a.object.name⟩] }

end Schema

end Schemata.Emission
