import Schemata.Sql.Quote

/-!
# Tokens

SQL statements are built as lists of tokens and written from them. Whether a name is quoted is
decided when its token is written and nowhere else.

## Main definitions

* `Keyword`, `Token`: what a statement is made of.
* `render`: the text of a list of tokens.
* `spaced`, `nameList`: groups of tokens that statements share.
-/

namespace Schemata.Sql

/-- A keyword, or a phrase that is always written as a whole. -/
inductive Keyword where
  | select
  | «from»
  | «where»
  | and
  | «as»
  | on
  | join
  | inner
  | left
  | null
  | not
  | create
  | schema
  | table
  | index
  | view
  | constraint
  | primary
  | key
  | foreign
  | references
  | unique
  | default
  | cascade
  | restrict
  | noAction
  | setNull
  | setDefault
  | «if»
  | exists
  | or
  | replace
  | using
  | delete
  | update
  | insert
  | into
  | values
  deriving DecidableEq, Repr

/-- The text of a keyword. -/
def Keyword.text : Keyword → String
  | .select => "SELECT"
  | .from => "FROM"
  | .where => "WHERE"
  | .and => "AND"
  | .as => "AS"
  | .on => "ON"
  | .join => "JOIN"
  | .inner => "INNER"
  | .left => "LEFT"
  | .null => "NULL"
  | .not => "NOT"
  | .create => "CREATE"
  | .schema => "SCHEMA"
  | .table => "TABLE"
  | .index => "INDEX"
  | .view => "VIEW"
  | .constraint => "CONSTRAINT"
  | .primary => "PRIMARY"
  | .key => "KEY"
  | .foreign => "FOREIGN"
  | .references => "REFERENCES"
  | .unique => "UNIQUE"
  | .default => "DEFAULT"
  | .cascade => "CASCADE"
  | .restrict => "RESTRICT"
  | .noAction => "NO ACTION"
  | .setNull => "SET NULL"
  | .setDefault => "SET DEFAULT"
  | .if => "IF"
  | .exists => "EXISTS"
  | .or => "OR"
  | .replace => "REPLACE"
  | .using => "USING"
  | .delete => "DELETE"
  | .update => "UPDATE"
  | .insert => "INSERT"
  | .into => "INTO"
  | .values => "VALUES"

/-- What a statement is made of. -/
inductive Token where
  | keyword (k : Keyword)
  | comma
  | dot
  | semicolon
  | openParen
  | closeParen
  | equals
  | space
  | newline
  /-- The beginning of a line, by its depth. -/
  | indent (depth : Nat)
  /-- The name of a table, a column, an alias or a constraint. -/
  | ident (name : String)
  /-- A name with the schema it lives in. -/
  | qualified (schema : Option String) (name : String)
  /-- A text value. -/
  | literal (value : String)
  /-- SQL that is copied as it stands: a type, a default, a condition. -/
  | raw (sql : String)
  deriving DecidableEq, Repr

/-- The text of a token. -/
def Token.chars : Token → List Char
  | .keyword k => k.text.toList
  | .comma => [',']
  | .dot => ['.']
  | .semicolon => [';']
  | .openParen => ['(']
  | .closeParen => [')']
  | .equals => ['=']
  | .space => [' ']
  | .newline => ['\n']
  | .indent depth => List.replicate (2 * depth) ' '
  | .ident name => quoteIdentifier name
  | .qualified none name => quoteIdentifier name
  | .qualified (some schema) name => quoteIdentifier schema ++ '.' :: quoteIdentifier name
  | .literal value => quoteLiteral value
  | .raw sql => sql.toList

/-- The text of a list of tokens. -/
def renderChars (tokens : List Token) : List Char := tokens.flatMap Token.chars

/-- The text of a list of tokens. -/
def render (tokens : List Token) : String := String.ofList (renderChars tokens)

/-- Groups of tokens with spaces between them. -/
def spaced (groups : List (List Token)) : List Token := [Token.space].intercalate groups

/-- Keywords with spaces between them. -/
def phrase (ks : List Keyword) : List Token := spaced (ks.map fun k => [.keyword k])

/-- The phrase `IF NOT EXISTS`. -/
def ifNotExists : List Token := phrase [.if, .not, .exists]

/-- Groups with commas and spaces between them, in parentheses. -/
def parenthesized (groups : List (List Token)) : List Token :=
  .openParen :: [Token.comma, Token.space].intercalate groups ++ [.closeParen]

/-- Names with commas between them, in parentheses. -/
def nameList (names : List String) : List Token := parenthesized (names.map fun n => [.ident n])

/-- A name in a schema. -/
def inSchema (schema name : String) : List Token := [.qualified (some schema) name]

/-- Groups on indented lines of their own, with commas between them. -/
def lines (groups : List (List Token)) : List Token :=
  [Token.comma].intercalate (groups.map fun g => .newline :: .indent 1 :: g)

end Schemata.Sql
