import Schemata.Document.Value

/-!
# Tables under construction

A TOML document builds its tables piecemeal: by headers, by keys with dots, and by headers of
further elements of a series. What may still be added to a table depends on how it came about, so a
table remembers its origin until the document is complete.

## Main definitions

* `Node`, `Entries`: a document under construction.
* `assign?`: give a key a value.
* `openTable?`, `openElement?`: the effect of a header.
* `Node.toValue`: the finished value.
-/

namespace Schemata.Document.Toml

/-- How a table came about. -/
inductive Origin where
  /-- A header names it. -/
  | header
  /-- A header names something inside it. -/
  | implied
  /-- A key with dots leads through it. -/
  | dotted
  deriving DecidableEq, Repr

/-- A part of a document under construction. -/
inductive Node where
  /-- A value that is complete. -/
  | leaf (v : Value)
  | table (origin : Origin) (entries : List (String × Node))
  /-- Tables that headers of one name list, the last one first. -/
  | series (last : List (String × Node)) (before : List (List (String × Node)))
  deriving Inhabited

/-- The entries of a table under construction. -/
abbrev Entries := List (String × Node)

/-- The entries with one replaced or added. -/
def put (entries : Entries) (name : String) (node : Node) : Entries :=
  if entries.any (·.1 == name) then
    entries.map fun e => if e.1 == name then (name, node) else e
  else entries ++ [(name, node)]

/-- Change the table at the end of a path. Tables that are missing on the way are made. The path
goes through tables, and through the last table of a series, but not into complete values; the path
of a key with dots goes only through tables that no header has named. -/
def descend? (dotted : Bool) (change : Option Origin → Entries → Option Entries) :
    List String → Option Origin → Entries → Option Entries
  | [], origin, entries => change origin entries
  | name :: path, _, entries =>
    match entries.lookup name with
    | none =>
      let origin := if dotted then Origin.dotted else Origin.implied
      (descend? dotted change path (some origin) []).map fun inner =>
        put entries name (.table origin inner)
    | some (.table origin inner) =>
      if dotted && origin == .header then none
      else (descend? dotted change path (some origin) inner).map fun inner =>
        put entries name (.table origin inner)
    | some (.series last before) =>
      (descend? dotted change path (some .header) last).map fun last =>
        put entries name (.series last before)
    | some (.leaf _) => none

/-- Add an entry that is not there yet. -/
def addNew? (name : String) (node : Node) (entries : Entries) : Option Entries :=
  if entries.any (·.1 == name) then none else some (put entries name node)

/-- Give a key a value. A key with dots ends in a table that only keys with dots have made. -/
def assign? (key : List String) (v : Value) (entries : Entries) : Option Entries :=
  match key.getLast? with
  | none => none
  | some name =>
    let path := key.dropLast
    descend? (!path.isEmpty)
      (fun origin inner =>
        if !path.isEmpty && origin != some .dotted then none else addNew? name (.leaf v) inner)
      path none entries

/-- The effect of a header: the table is new, or was only implied so far. -/
def openTable? (key : List String) (entries : Entries) : Option Entries :=
  match key.getLast? with
  | none => none
  | some name =>
    descend? false
      (fun _ inner =>
        match inner.lookup name with
        | none => some (put inner name (.table .header []))
        | some (.table .implied old) => some (put inner name (.table .header old))
        | some _ => none)
      key.dropLast none entries

/-- The effect of a header of a series: one more table is at its end. -/
def openElement? (key : List String) (entries : Entries) : Option Entries :=
  match key.getLast? with
  | none => none
  | some name =>
    descend? false
      (fun _ inner =>
        match inner.lookup name with
        | none => some (put inner name (.series [] []))
        | some (.series last before) => some (put inner name (.series [] (last :: before)))
        | some _ => none)
      key.dropLast none entries

/-- Give a key a value in the table of a header. -/
def assignIn? (header key : List String) (v : Value) (entries : Entries) : Option Entries :=
  descend? false (fun _ inner => assign? key v inner) header none entries

mutual

/-- The finished value of a node. -/
def Node.toValue : Node → Value
  | .leaf v => v
  | .table _ entries => .table (entriesToValues entries)
  | .series last before =>
    .list ((seriesToValues before).reverse ++ [.table (entriesToValues last)])

/-- The finished values of entries. -/
def entriesToValues : List (String × Node) → List (String × Value)
  | [] => []
  | (name, node) :: rest => (name, node.toValue) :: entriesToValues rest

/-- The finished values of the tables of a series. -/
def seriesToValues : List (List (String × Node)) → List Value
  | [] => []
  | entries :: rest => .table (entriesToValues entries) :: seriesToValues rest

end

end Schemata.Document.Toml
