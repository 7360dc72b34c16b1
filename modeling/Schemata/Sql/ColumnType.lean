import Schemata.Spec.FieldType

/-!
# Column types

The types of columns, and the maps from field types to them. A column holds a field itself or
refers to a field elsewhere. A reference counts nothing by itself, so a counted key is referred to
by a plain integer of its width; what is encrypted or hashed cannot be referred to.
-/

namespace Schemata.Sql

open Spec

/-- The type of a column. -/
inductive ColumnType where
  | serial
  | bigSerial
  | integer
  | bigInt
  | boolean
  | date
  | doublePrecision
  | text
  | timestampTz
  | uuid
  | jsonb
  deriving DecidableEq, Repr

namespace ColumnType

/-- All column types. -/
def all : List ColumnType :=
  [serial, bigSerial, integer, bigInt, boolean, date, doublePrecision, text, timestampTz, uuid,
    jsonb]

/-- How a column type is written in SQL. -/
def sql : ColumnType → String
  | serial => "SERIAL"
  | bigSerial => "BIGSERIAL"
  | integer => "INTEGER"
  | bigInt => "BIGINT"
  | boolean => "BOOLEAN"
  | date => "DATE"
  | doublePrecision => "DOUBLE PRECISION"
  | text => "TEXT"
  | timestampTz => "TIMESTAMPTZ"
  | uuid => "UUID"
  | jsonb => "JSONB"

/-- The name of a column type in a description of a table. -/
def name : ColumnType → String
  | serial => "Serial"
  | bigSerial => "BigSerial"
  | integer => "Integer"
  | bigInt => "BigInt"
  | boolean => "Boolean"
  | date => "Date"
  | doublePrecision => "DoublePrecision"
  | text => "Text"
  | timestampTz => "TimestampTz"
  | uuid => "Uuid"
  | jsonb => "Jsonb"

/-- The column type of a name. -/
def ofName? (s : String) : Option ColumnType := all.find? (·.name == s)

end ColumnType

/-- What a column does with a field. -/
inductive Side where
  /-- It holds the field. -/
  | own
  /-- It refers to the field. -/
  | reference
  deriving DecidableEq, Repr

/-- A map from field types to column types: for one side, with keys of one width. -/
structure TypeMap where
  side : Side
  /-- Whether counted keys are wide. -/
  wide : Bool
  deriving DecidableEq, Repr

namespace TypeMap

/-- The name of a map in messages. -/
def name (m : TypeMap) : String :=
  (match m.side with
    | .own => "local/"
    | .reference => "foreign/") ++ if m.wide then "bigserial" else "serial"

/-- The type of a counted key. -/
def counter (m : TypeMap) : ColumnType :=
  match m.side, m.wide with
  | .own, false => .serial
  | .own, true => .bigSerial
  | .reference, false => .integer
  | .reference, true => .bigInt

/-- The type of text that is not kept as it is. -/
def concealed? (m : TypeMap) : Option ColumnType :=
  match m.side with
  | .own => some .text
  | .reference => none

/-- The column type of a field type, when the map has one. -/
def get? (m : TypeMap) : FieldType → Option ColumnType
  | .autoIncrement => some m.counter
  | .boolean => some .boolean
  | .date => some .date
  | .float => some .doublePrecision
  | .integer => some .integer
  | .encrypted => m.concealed?
  | .hashed => m.concealed?
  | .string => some .text
  | .time => some .timestampTz
  | .uuid => some .uuid

end TypeMap

end Schemata.Sql
