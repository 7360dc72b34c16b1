import Schemata.Document.Value
import Schemata.Text.Class
import Schemata.Text.Digit

/-!
# Lexemes of TOML

The smallest parts of a TOML document: blanks, comments, line ends, strings and keys. A control
character is refused wherever it stands, but for the tab and the line end; a carriage return
belongs to a line end.

## Main definitions

* `filler?`, `lineEnd?`: what may stand between values, and after a statement.
* `basic?`, `literal?`, `multiBasic?`, `multiLiteral?`: strings after their opening quotes.
* `key?`: a key, as the names it is made of.
-/

namespace Schemata.Document.Toml

open Text

/-- Drop blanks on a line. -/
def skip (cs : List Char) : List Char := cs.dropWhile fun c => c == ' ' || c == '\t'

/-- A character that comments and strings may hold. -/
def isPlain (c : Char) : Bool := c == '\t' || (0x20 ≤ c.toNat && c.toNat != 0x7F)

/-- Drop blanks, line ends and comments. -/
def filler? (inComment : Bool) : List Char → Option (List Char)
  | [] => some []
  | '\n' :: rest => filler? false rest
  | '\r' :: '\n' :: rest => filler? false rest
  | c :: rest =>
    if inComment then if isPlain c then filler? true rest else none
    else if c == ' ' || c == '\t' then filler? false rest
    else if c == '#' then filler? true rest
    else some (c :: rest)

/-- What follows the line end of a comment. -/
def afterComment? : List Char → Option (List Char)
  | [] => some []
  | '\n' :: rest => some rest
  | '\r' :: '\n' :: rest => some rest
  | c :: rest => if isPlain c then afterComment? rest else none

/-- What follows the line, on which nothing but blanks and a comment may be left. -/
def lineEnd? (cs : List Char) : Option (List Char) :=
  match skip cs with
  | [] => some []
  | '\n' :: rest => some rest
  | '\r' :: '\n' :: rest => some rest
  | '#' :: rest => afterComment? rest
  | _ => none

/-- What a character after a backslash stands for. -/
def escape? : Char → Option Char
  | '"' => some '"'
  | '\\' => some '\\'
  | 'b' => some (Char.ofNat 0x08)
  | 'e' => some (Char.ofNat 0x1B)
  | 'f' => some (Char.ofNat 0x0C)
  | 'n' => some '\n'
  | 'r' => some '\r'
  | 't' => some '\t'
  | _ => none

/-- How many hexadecimal digits follow a letter after a backslash. -/
def codeLength? : Char → Option Nat
  | 'x' => some 2
  | 'u' => some 4
  | 'U' => some 8
  | _ => none

/-- The character of a code point that is one. -/
def scalar? (n : Nat) : Option Char :=
  if n.isValidChar then some (Char.ofNat n) else none

/-- The character that hexadecimal digits stand for. -/
def codeChar? (size : Nat) (digits : List Char) : Option Char :=
  if digits.length = size then
    (digits.mapM hexValue?).bind fun ds => scalar? (ofDigits 16 ds)
  else none

/-- The character of an escape, after its backslash, and what follows. -/
def escaped? : List Char → Option (Char × List Char)
  | [] => none
  | c :: rest =>
    match codeLength? c with
    | some size => (codeChar? size (rest.take size)).map fun x => (x, rest.drop size)
    | none => (escape? c).map fun x => (x, rest)

/-- A single quote. -/
def apostrophe : Char := Char.ofNat 0x27

/-- A string in double quotes, after its opening quote. -/
def basic? : Nat → List Char → Option (List Char × List Char)
  | 0, _ => none
  | _ + 1, [] => none
  | fuel + 1, c :: rest =>
    if c == '"' then some ([], rest)
    else if c == '\\' then
      match escaped? rest with
      | none => none
      | some (x, rest) => (basic? fuel rest).map fun r => (x :: r.1, r.2)
    else if isPlain c then (basic? fuel rest).map fun r => (c :: r.1, r.2)
    else none

/-- A string in single quotes, after its opening quote. -/
def literal? : List Char → Option (List Char × List Char)
  | [] => none
  | c :: rest =>
    if c == apostrophe then some ([], rest)
    else if isPlain c then (literal? rest).map fun r => (c :: r.1, r.2)
    else none

/-- The quotes at the end of a string of several lines: three close it, and up to two before them
belong to it. -/
def closing? (quote : Char) (cs : List Char) : Option (List Char × List Char) :=
  let size := (cs.takeWhile (· == quote)).length
  if size < 3 then none
  else
    let inside := min (size - 3) 2
    some (List.replicate inside quote, cs.drop (inside + 3))

/-- What follows a backslash at the end of a line: all blanks and line ends are passed over. A
backslash that only blanks follow needs a line end. -/
def continued? : Bool → List Char → Option (List Char)
  | crossed, [] => if crossed then some [] else none
  | _, '\n' :: rest => continued? true rest
  | _, '\r' :: '\n' :: rest => continued? true rest
  | crossed, c :: rest =>
    if c == ' ' || c == '\t' then continued? crossed rest
    else if crossed then some (c :: rest)
    else none

/-- A string of several lines in double quotes, after its opening quotes. -/
def multiBasic? : Nat → List Char → Option (List Char × List Char)
  | 0, _ => none
  | _ + 1, [] => none
  | fuel + 1, c :: rest =>
    match closing? '"' (c :: rest) with
    | some r => some r
    | none =>
      if c == '\\' then
        match escaped? rest with
        | some (x, rest) => (multiBasic? fuel rest).map fun r => (x :: r.1, r.2)
        | none =>
          match continued? false rest with
          | some rest => multiBasic? fuel rest
          | none => none
      else if c == '\n' || isPlain c then (multiBasic? fuel rest).map fun r => (c :: r.1, r.2)
      else if c == '\r' && rest.head? == some '\n' then
        (multiBasic? fuel rest).map fun r => (c :: r.1, r.2)
      else none

/-- A string of several lines in single quotes, after its opening quotes. -/
def multiLiteral? : List Char → Option (List Char × List Char)
  | [] => none
  | c :: rest =>
    match closing? apostrophe (c :: rest) with
    | some r => some r
    | none =>
      if c == '\n' || isPlain c || (c == '\r' && rest.head? == some '\n') then
        (multiLiteral? rest).map fun r => (c :: r.1, r.2)
      else none

/-- A line end right after the opening quotes is not part of the string. -/
def trimFirstLine : List Char → List Char
  | '\n' :: rest => rest
  | '\r' :: '\n' :: rest => rest
  | cs => cs

/-- A string in double quotes, from its first quote on. -/
def doubleQuoted? (cs : List Char) : Option (List Char × List Char) :=
  match cs with
  | '"' :: '"' :: '"' :: rest => multiBasic? (rest.length + 1) (trimFirstLine rest)
  | '"' :: rest => basic? (rest.length + 1) rest
  | _ => none

/-- A string in single quotes, from its first quote on. -/
def singleQuoted? (cs : List Char) : Option (List Char × List Char) :=
  match cs with
  | a :: b :: c :: rest =>
    if a == apostrophe && b == apostrophe && c == apostrophe then
      multiLiteral? (trimFirstLine rest)
    else if a == apostrophe then literal? (b :: c :: rest)
    else none
  | a :: rest => if a == apostrophe then literal? rest else none
  | [] => none

/-! ## Keys -/

/-- A character of a key without quotes. -/
def isBareKeyChar (c : Char) : Bool :=
  isAsciiLetter c || isAsciiDigit c || c == '_' || c == '-'

/-- One name of a key, and what follows. -/
def simpleKey? : List Char → Option (String × List Char)
  | '"' :: rest => (basic? (rest.length + 1) rest).map fun r => (String.ofList r.1, r.2)
  | c :: rest =>
    if c == apostrophe then (literal? rest).map fun r => (String.ofList r.1, r.2)
    else
      match (c :: rest).span isBareKeyChar with
      | ([], _) => none
      | (name, rest) => some (String.ofList name, rest)
  | [] => none

/-- The names of a key, as many as the fuel allows, which dots separate, and what follows them and
blanks. -/
def keyNames? : Nat → List Char → Option (List String × List Char)
  | 0, _ => none
  | fuel + 1, cs =>
    match simpleKey? (skip cs) with
    | none => none
    | some (name, rest) =>
      match skip rest with
      | '.' :: rest => (keyNames? fuel rest).map fun r => (name :: r.1, r.2)
      | rest => some ([name], rest)

/-- How many names a key may have. -/
def maxNames : Nat := 80

/-- A key, and what follows it and blanks. -/
def key? (cs : List Char) : Option (List String × List Char) := keyNames? maxNames cs

end Schemata.Document.Toml
