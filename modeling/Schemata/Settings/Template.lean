import Schemata.Text.Class

/-!
# Templates

Schema names may refer to environment variables, as `$NAME` or `${NAME}`. A dollar sign that no
name follows stands for itself, and a value that is put in is not looked at again.
-/

namespace Schemata.Settings

/-- The environment: the value of each variable that is set. -/
abbrev Environment := String → Option String

/-- The environment of some entries. An entry is one text, a name and a value with an equals sign
between them, and the value of a name is what follows the name and an equals sign in it. A name
may hold an equals sign itself. -/
def Environment.ofEntries (entries : List (String × String)) : Environment := fun name =>
  (entries.findSome? fun e =>
    (name.toList ++ ['=']).isPrefixOf? (e.1.toList ++ '=' :: e.2.toList)).map String.ofList

/-- A piece of a template. -/
inductive Piece where
  | text (c : Char)
  | reference (name : List Char)
  deriving DecidableEq, Repr

/-- Whether a character may stand in a bare variable name. -/
def isNameChar (c : Char) : Bool := Text.isAlphanumeric c || c == '_'

/-- What a template is being read as. -/
inductive Reading where
  /-- Plain text. -/
  | plain
  /-- After a dollar sign. -/
  | dollar
  /-- Inside braces; the name so far, reversed. -/
  | braced (name : List Char)
  /-- Inside a bare name; the name so far, reversed. -/
  | bare (name : List Char)
  deriving DecidableEq, Repr

/-- Take one character: what is complete now, and what comes next. -/
def Reading.next (c : Char) : Reading → List Piece × Reading
  | .plain => if c == '$' then ([], .dollar) else ([.text c], .plain)
  | .dollar =>
    if c == '\x7b' then ([], .braced [])
    else if isNameChar c then ([], .bare [c])
    else if c == '$' then ([.text '$'], .dollar)
    else ([.text '$', .text c], .plain)
  | .braced name =>
    if c == '\x7d' then ([.reference name.reverse], .plain) else ([], .braced (c :: name))
  | .bare name =>
    if isNameChar c then ([], .bare (c :: name))
    else if c == '$' then ([.reference name.reverse], .dollar)
    else ([.reference name.reverse, .text c], .plain)

/-- What is complete at the end of a template. A brace need not be closed there. -/
def Reading.finish : Reading → List Piece
  | .plain => []
  | .dollar => [.text '$']
  | .braced name => [.reference name.reverse]
  | .bare name => [.reference name.reverse]

/-- The pieces of a template, from a state of reading on. -/
def piecesFrom : Reading → List Char → List Piece
  | state, [] => state.finish
  | state, c :: rest => (state.next c).1 ++ piecesFrom (state.next c).2 rest

/-- The pieces of a template. -/
def pieces (template : String) : List Piece := piecesFrom .plain template.toList

/-- The variables that a template refers to. -/
def references (template : String) : List String :=
  (pieces template).filterMap fun
    | .reference name => some (String.ofList name)
    | .text _ => none

/-- Put in the values of variables; the first that is not set is reported. -/
def fill (env : Environment) : List Piece → Except String (List Char)
  | [] => .ok []
  | .text c :: rest => (fill env rest).map (c :: ·)
  | .reference name :: rest =>
    match env (String.ofList name) with
    | none => .error (String.ofList name)
    | some value => (fill env rest).map (value.toList ++ ·)

/-- A template with the values of its variables, or the first variable that is not set. -/
def expand (env : Environment) (template : String) : Except String String :=
  (fill env (pieces template)).map String.ofList

end Schemata.Settings
