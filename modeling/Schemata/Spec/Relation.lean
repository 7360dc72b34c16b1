/-!
# Relations between models

A relation has a direction, which says which side holds the reference, and a cardinality. Only the
side that refers to the other leaves a trace in the database.
-/

namespace Schemata.Spec

/-- Which side of a relation holds the reference. -/
inductive Direction where
  /-- This model refers to the target. -/
  | holds
  /-- The target refers to this model. -/
  | isHeld
  deriving DecidableEq, Repr

/-- How many targets a relation has. -/
inductive Cardinality where
  | one
  | many
  deriving DecidableEq, Repr

/-- The kind of a relation. -/
structure RelationKind where
  direction : Direction
  cardinality : Cardinality
  deriving DecidableEq, Repr

namespace RelationKind

/-- This model refers to one target. -/
def forOne : RelationKind := ⟨.holds, .one⟩

/-- This model refers to many targets. -/
def forMany : RelationKind := ⟨.holds, .many⟩

/-- One other model refers to this one. -/
def hasOne : RelationKind := ⟨.isHeld, .one⟩

/-- Many other models refer to this one. -/
def hasMany : RelationKind := ⟨.isHeld, .many⟩

/-- Whether this side holds the reference. -/
def isFor (k : RelationKind) : Bool := k.direction == .holds

/-- Whether there is one target. -/
def isOne (k : RelationKind) : Bool := k.cardinality == .one

/-- The name of a kind in a specification. -/
def name (k : RelationKind) : String :=
  match k.direction, k.cardinality with
  | .holds, .one => "ForOne"
  | .holds, .many => "ForMany"
  | .isHeld, .one => "HasOne"
  | .isHeld, .many => "HasMany"

/-- All kinds. -/
def all : List RelationKind := [forOne, forMany, hasOne, hasMany]

/-- The kind of a name. -/
def ofName? (s : String) : Option RelationKind := all.find? (·.name == s)

/-- The kind of a name, or what is said where there is none. -/
def parse (s : String) : Except String RelationKind :=
  match ofName? s with
  | some k => .ok k
  | none => .error ("unknown relation type: " ++ s)

/-- The kind of the name of a kind is that kind. -/
theorem ofName?_name (k : RelationKind) : ofName? k.name = some k := by
  obtain ⟨direction, cardinality⟩ := k
  cases direction <;> cases cardinality <;> decide

/-- A kind has one name, and no other text is taken for one. -/
theorem parse_eq_ok_iff {s : String} {k : RelationKind} : parse s = .ok k ↔ s = k.name := by
  constructor
  · intro h
    unfold parse at h
    split at h
    · rename_i found hfound
      have hname := List.find?_some (p := fun k : RelationKind => k.name == s) hfound
      cases h
      exact (eq_of_beq hname).symm
    · cases h
  · rintro rfl
    rw [parse, ofName?_name]

end RelationKind

/-- A relation from one model to another. -/
structure Relation where
  kind : RelationKind
  /-- The declared target, after which columns and tables are named. -/
  target : String
  /-- The model that the relation leads to, when it is not the declared target. -/
  actual : Option String := none
  deriving DecidableEq, Repr

/-- The model that a relation leads to. -/
def Relation.resolved (r : Relation) : String := r.actual.getD r.target

end Schemata.Spec
