import Schemata.Document.Value
import Schemata.NameMap

/-!
# Decoding

Reading typed data out of document values. A record is a table with entries for its fields; entries
that are no fields are passed over. It may also be a list of its fields in order. One of several
alternatives is given by its name, or by a table whose only entry has that name and holds nothing.

The formats of documents differ in two details, which a `Dialect` states.
-/

namespace Schemata.Document

/-- What a format decides about records and alternatives. -/
structure Dialect where
  /-- Whether a list that stands for a record may go on after the last field. -/
  allowsSurplus : Bool
  /-- Which values hold nothing. -/
  isNothing : Value → Bool

/-- The decisions of JSON. -/
def Dialect.json : Dialect where
  allowsSurplus := false
  isNothing
    | .null => true
    | _ => false

/-- The decisions of TOML. -/
def Dialect.toml : Dialect where
  allowsSurplus := true
  isNothing
    | .table [] => true
    | .list [] => true
    | _ => false

/-- A text. -/
def text? : Value → Option String
  | .text s => some s
  | _ => none

/-- A truth value. -/
def bool? : Value → Option Bool
  | .bool b => some b
  | _ => none

/-- A value, or nothing where there is `null`. -/
def nullable? {α : Type} (decode : Value → Option α) : Value → Option (Option α)
  | .null => some none
  | v => (decode v).map some

/-- A list. -/
def list? {α : Type} (decode : Value → Option α) : Value → Option (List α)
  | .list items => items.mapM decode
  | _ => none

/-- A map from names. -/
def nameMap? {α : Type} (decode : Value → Option α) : Value → Option (NameMap α)
  | .table entries => do
    let decoded ← entries.mapM fun e => (decode e.2).map fun a => (e.1, a)
    return NameMap.ofList decoded
  | _ => none

/-- The values of a record's fields, in the order of the fields. An entry that is no field has to be
readable all the same; an item after the last field has not. -/
def Dialect.fields? (d : Dialect) (names : List String) : Value → Option (List (Option Value))
  | .table entries =>
    if entries.all fun e => names.contains e.1 || e.2.isReadable then
      some (names.map fun n => entries.lookup n)
    else none
  | .list items =>
    if items.length ≤ names.length || d.allowsSurplus then
      some ((List.range names.length).map fun i => items[i]?)
    else none
  | _ => none

/-- One of several alternatives. -/
def Dialect.alternative? {α : Type} (d : Dialect) (ofName? : String → Option α) :
    Value → Option α
  | .text s => ofName? s
  | .table [(name, inner)] => if d.isNothing inner then ofName? name else none
  | _ => none

/-- A field that must be given. -/
def required {α : Type} (decode : Value → Option α) : Option Value → Option α
  | some v => decode v
  | none => none

/-- A field that may be left out. -/
def withDefault {α : Type} (fallback : α) (decode : Value → Option α) : Option Value → Option α
  | some v => decode v
  | none => some fallback

end Schemata.Document
