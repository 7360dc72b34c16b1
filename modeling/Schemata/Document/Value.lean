import Schemata.Decimal.Double

/-!
# Document values

What a document can say, whatever its format: the dynamic values that specifications and settings
are decoded from, and that answers are written as. Entries of a table keep the order in which they
were written; a name occurs once.
-/

namespace Schemata.Document

open Decimal

/-- A value of a document. -/
inductive Value where
  | null
  | bool (b : Bool)
  | int (n : Int)
  | float (x : Double)
  | text (s : String)
  /-- A number that is well written and has no value. -/
  | badNumber
  | list (items : List Value)
  | table (entries : List (String × Value))
  deriving Inhabited, Repr

/-- The entries of a table with one more; an entry of the same name is replaced where it stands. -/
def putEntry (entries : List (String × Value)) (name : String) (v : Value) :
    List (String × Value) :=
  if entries.any (·.1 == name) then
    entries.map fun e => if e.1 == name then (name, v) else e
  else entries ++ [(name, v)]

/-- The entry of a name in a table. -/
def Value.get? : Value → String → Option Value
  | .table entries, name => entries.lookup name
  | _, _ => none

mutual

/-- Whether every number in a value has a value. -/
def Value.isReadable : Value → Bool
  | .badNumber => false
  | .list items => areReadable items
  | .table entries => entriesAreReadable entries
  | _ => true

/-- Whether every number in a list of values has a value. -/
def areReadable : List Value → Bool
  | [] => true
  | v :: rest => v.isReadable && areReadable rest

/-- Whether every number in the entries of a table has a value. -/
def entriesAreReadable : List (String × Value) → Bool
  | [] => true
  | (_, v) :: rest => v.isReadable && entriesAreReadable rest

end

end Schemata.Document
