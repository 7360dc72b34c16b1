import Schemata.Spec.Basic

/-!
# Registries

A registry holds the parts of a specification by name.
-/

namespace Schemata.Spec

/-- The parts of a specification, by name. -/
structure Registry where
  models : NameMap Model := {}
  enumerations : NameMap Enumeration := {}
  entities : NameMap Entity := {}
  structures : NameMap Structure := {}
  deriving DecidableEq

namespace Registry

/-- A registry with a model under its own name. -/
def insertModel (r : Registry) (m : Model) : Registry :=
  { r with models := r.models.insert m.name m }

/-- A registry with an enumeration under its own name. -/
def insertEnumeration (r : Registry) (e : Enumeration) : Registry :=
  { r with enumerations := r.enumerations.insert e.name e }

/-- A registry with an entity under its own name. -/
def insertEntity (r : Registry) (e : Entity) : Registry :=
  { r with entities := r.entities.insert e.name e }

/-- A registry with a structure under its own name. -/
def insertStructure (r : Registry) (s : Structure) : Registry :=
  { r with structures := r.structures.insert s.name s }

end Registry

/-- A part of a specification that is asked for and not there. -/
structure NotFound where
  kind : Kind
  name : String
  deriving DecidableEq, Repr

/-- The text of a failed look-up. -/
def NotFound.message (e : NotFound) : String := e.kind.name ++ " not found: " ++ e.name

namespace Registry

/-- The model of a name. -/
def model (r : Registry) (name : String) : Except NotFound Model :=
  match r.models.get? name with
  | some m => .ok m
  | none => .error ⟨.model, name⟩

/-- The enumeration of a name. -/
def enumeration (r : Registry) (name : String) : Except NotFound Enumeration :=
  match r.enumerations.get? name with
  | some e => .ok e
  | none => .error ⟨.enumeration, name⟩

/-- The entity of a name. -/
def entity (r : Registry) (name : String) : Except NotFound Entity :=
  match r.entities.get? name with
  | some e => .ok e
  | none => .error ⟨.entity, name⟩

end Registry

end Schemata.Spec
