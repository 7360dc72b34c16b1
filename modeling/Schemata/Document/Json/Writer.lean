import Schemata.Decimal.Layout
import Schemata.Document.Value
import Schemata.Text.Digit

/-!
# Writing JSON

A value as JSON, on one line or indented. Entries are written in their order.
-/

namespace Schemata.Document.Json

/-- How a character is written inside a string. -/
def writeChar (c : Char) : List Char :=
  match c with
  | '"' => ['\\', '"']
  | '\\' => ['\\', '\\']
  | '\n' => ['\\', 'n']
  | '\r' => ['\\', 'r']
  | '\t' => ['\\', 't']
  | c =>
    if c.toNat = 8 then ['\\', 'b']
    else if c.toNat = 12 then ['\\', 'f']
    else if c.toNat < 0x20 then
      ['\\', 'u', '0', '0', Text.hexDigit (c.toNat / 16), Text.hexDigit (c.toNat % 16)]
    else [c]

/-- A string in its quotes. -/
def writeString (s : String) : String :=
  String.ofList ('"' :: s.toList.flatMap writeChar ++ ['"'])

/-- A value that is neither a list nor a table. Numbers without a value are written `null`. -/
def writeScalar : Value → String
  | .bool true => "true"
  | .bool false => "false"
  | .int n => toString n
  | .float x => if x.isFinite then x.write else "null"
  | .text s => writeString s
  | _ => "null"

mutual

/-- A value on one line. -/
def compact : Value → String
  | .list items => "[" ++ compactItems items ++ "]"
  | .table entries => "\x7b" ++ compactEntries entries ++ "\x7d"
  | v => writeScalar v

/-- Items with commas between them. -/
def compactItems : List Value → String
  | [] => ""
  | [v] => compact v
  | v :: rest => compact v ++ "," ++ compactItems rest

/-- Entries with commas between them. -/
def compactEntries : List (String × Value) → String
  | [] => ""
  | [(name, v)] => writeString name ++ ":" ++ compact v
  | (name, v) :: rest => writeString name ++ ":" ++ compact v ++ "," ++ compactEntries rest

end

/-- The beginning of a line, two blanks a level. -/
def indent (level : Nat) : String := String.ofList (List.replicate (2 * level) ' ')

mutual

/-- A value over several lines, inside `level` others. An empty list or table stays on its line. -/
def prettyAt (level : Nat) : Value → String
  | .list [] => "[]"
  | .list items => "[\n" ++ prettyItems (level + 1) items ++ "\n" ++ indent level ++ "]"
  | .table [] => "\x7b\x7d"
  | .table entries =>
    "\x7b\n" ++ prettyEntries (level + 1) entries ++ "\n" ++ indent level ++ "\x7d"
  | v => writeScalar v

/-- Items on lines of their own. -/
def prettyItems (level : Nat) : List Value → String
  | [] => ""
  | [v] => indent level ++ prettyAt level v
  | v :: rest => indent level ++ prettyAt level v ++ ",\n" ++ prettyItems level rest

/-- Entries on lines of their own. -/
def prettyEntries (level : Nat) : List (String × Value) → String
  | [] => ""
  | [(name, v)] => indent level ++ writeString name ++ ": " ++ prettyAt level v
  | (name, v) :: rest =>
    indent level ++ writeString name ++ ": " ++ prettyAt level v ++ ",\n"
      ++ prettyEntries level rest

end

/-- A value over several lines. -/
def pretty (v : Value) : String := prettyAt 0 v

end Schemata.Document.Json
