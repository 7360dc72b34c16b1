import Schemata.Decimal.Layout

/-!
# Literals of enumerations

The values that the entries of an enumeration stand for, and the types that an enumeration can
declare for them.
-/

namespace Schemata.Spec

open Decimal

/-- The declared type of an enumeration's literals. -/
inductive LiteralType where
  | string
  | integer
  | float
  deriving DecidableEq, Repr

namespace LiteralType

/-- All literal types. -/
def all : List LiteralType := [string, integer, float]

/-- The name of a literal type in a specification. -/
def name : LiteralType → String
  | string => "String"
  | integer => "Integer"
  | float => "Float"

/-- The literal type of a name. -/
def ofName? (s : String) : Option LiteralType := all.find? (·.name == s)

end LiteralType

/-- The value of an entry. -/
inductive Literal where
  | integer (n : Int)
  | float (x : Double)
  | string (s : String)
  deriving DecidableEq, Repr

namespace Literal

/-- Whether a literal is acceptable where a type is declared. An integer is acceptable as a
float. -/
def hasType : Literal → LiteralType → Bool
  | .string _, .string => true
  | .integer _, .integer => true
  | .float _, .float => true
  | .integer _, .float => true
  | _, _ => false

/-- The text of a literal, as it is kept in a table. -/
def text : Literal → String
  | .string s => s
  | .integer n => toString n
  | .float x => x.write

end Literal

end Schemata.Spec
