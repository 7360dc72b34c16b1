import Schemata.Document.Toml.Scalar
import Schemata.Document.Toml.Tree

/-!
# Reading TOML

Documents of TOML 1.1. A document is a sequence of statements, each on a line of its own: a key
with its value, the header of a table, or the header of the next table of a series.
-/

namespace Schemata.Document.Toml

/-- How many lists and tables may stand inside each other in one value. -/
def maxNesting : Nat := 80

/-- The key of an entry in braces, and what follows its equals sign. Lines may end on either side of
the equals sign. -/
def assignment? (cs : List Char) : Option (List String × List Char) := do
  let (key, rest) ← key? cs
  match ← filler? false rest with
  | '=' :: rest => return (key, ← filler? false rest)
  | _ => none

mutual

/-- The value at the beginning of a text. -/
def value? : Nat → Nat → List Char → Option (Value × List Char)
  | 0, _, _ => none
  | fuel + 1, depth, cs =>
    match cs with
    | [] => none
    | c :: rest =>
      if c == '"' then (doubleQuoted? cs).map fun r => (.text (String.ofList r.1), r.2)
      else if c == apostrophe then (singleQuoted? cs).map fun r => (.text (String.ofList r.1), r.2)
      else if c == '[' then
        if depth = 0 then none else (items? fuel (depth - 1) rest).map fun r => (.list r.1, r.2)
      else if c == '\x7b' then
        if depth = 0 then none
        else (entries? fuel (depth - 1) [] rest).map fun r => (.table (entriesToValues r.1), r.2)
      else bareValue? cs

/-- The items of a list, from the place of an item or of the closing bracket on. -/
def items? : Nat → Nat → List Char → Option (List Value × List Char)
  | 0, _, _ => none
  | fuel + 1, depth, cs =>
    match filler? false cs with
    | none => none
    | some (']' :: rest) => some ([], rest)
    | some cs =>
      match value? fuel depth cs with
      | none => none
      | some (v, rest) =>
        match filler? false rest with
        | some (',' :: rest) => (items? fuel depth rest).map fun r => (v :: r.1, r.2)
        | some (']' :: rest) => some ([v], rest)
        | _ => none

/-- The entries of a table in braces, from the place of an entry or of the closing brace on, added
to those before. -/
def entries? : Nat → Nat → Entries → List Char → Option (Entries × List Char)
  | 0, _, _, _ => none
  | fuel + 1, depth, before, cs =>
    match filler? false cs with
    | none => none
    | some ('\x7d' :: rest) => some (before, rest)
    | some cs =>
      match assignment? cs with
      | none => none
      | some (key, rest) =>
        match value? fuel depth rest with
        | none => none
        | some (v, rest) =>
          match assign? key v before with
          | none => none
          | some entries =>
            match filler? false rest with
            | some (',' :: rest) => entries? fuel depth entries rest
            | some ('\x7d' :: rest) => some (entries, rest)
            | _ => none

end

/-- A statement of a document. -/
inductive Statement where
  | table (key : List String)
  | element (key : List String)
  | assignment (key : List String) (v : Value)

/-- The statement at the beginning of a text. -/
def statement? (cs : List Char) : Option (Statement × List Char) :=
  match cs with
  | '[' :: '[' :: rest =>
    match key? rest with
    | some (key, ']' :: ']' :: rest) => some (.element key, rest)
    | _ => none
  | '[' :: rest =>
    match key? rest with
    | some (key, ']' :: rest) => some (.table key, rest)
    | _ => none
  | _ =>
    match key? cs with
    | some (key, '=' :: rest) =>
      (value? (2 * cs.length + 2) maxNesting (skip rest)).map fun r => (.assignment key r.1, r.2)
    | _ => none

/-- A document as far as it is read: the table that the last header opened, and the whole. -/
structure Draft where
  header : List String
  entries : Entries

/-- The effect of a statement. -/
def Draft.add? (d : Draft) : Statement → Option Draft
  | .table key => (openTable? key d.entries).map fun entries => ⟨key, entries⟩
  | .element key => (openElement? key d.entries).map fun entries => ⟨key, entries⟩
  | .assignment key v =>
    (assignIn? d.header key v d.entries).map fun entries => { d with entries := entries }

/-- The statements of a text, added to a draft. -/
def statements? : Nat → Draft → List Char → Option Draft
  | 0, _, _ => none
  | fuel + 1, d, cs =>
    match filler? false cs with
    | none => none
    | some [] => some d
    | some cs =>
      match statement? cs with
      | none => none
      | some (s, rest) =>
        match d.add? s with
        | none => none
        | some d =>
          match lineEnd? rest with
          | none => none
          | some rest => statements? fuel d rest

/-- A text without a byte-order mark in front. -/
def dropMark : List Char → List Char
  | c :: rest => if c.toNat = 0xFEFF then rest else c :: rest
  | [] => []

/-- The value of a document. Every statement takes a character at least, so the length of the text
bounds their number. -/
def read? (text : String) : Option Value :=
  let cs := dropMark text.toList
  (statements? (cs.length + 1) ⟨[], []⟩ cs).map fun d => .table (entriesToValues d.entries)

end Schemata.Document.Toml
