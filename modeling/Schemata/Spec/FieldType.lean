/-!
# Field types

What a field of a model can hold.
-/

namespace Schemata.Spec

/-- The type of a field. -/
inductive FieldType where
  | autoIncrement
  | boolean
  | date
  | float
  | integer
  /-- Text that is encrypted where it is kept. -/
  | encrypted
  /-- Text of which only a digest is kept. -/
  | hashed
  | string
  | time
  | uuid
  deriving DecidableEq, Repr

namespace FieldType

/-- All field types. -/
def all : List FieldType :=
  [autoIncrement, boolean, date, float, integer, encrypted, hashed, string, time, uuid]

/-- The name of a field type in a specification. -/
def name : FieldType → String
  | autoIncrement => "AutoIncrement"
  | boolean => "Boolean"
  | date => "Date"
  | float => "Float"
  | integer => "Integer"
  | encrypted => "Protected"
  | hashed => "Sealed"
  | string => "String"
  | time => "Time"
  | uuid => "UUID"

/-- The field type of a name. -/
def ofName? (s : String) : Option FieldType := all.find? (·.name == s)

end FieldType

end Schemata.Spec
