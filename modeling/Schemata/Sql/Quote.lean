import Schemata.Text.Class

/-!
# Quoting

How names and values are written so that the database reads them back unchanged. A name is written
bare when the database accepts it so, and in double quotes otherwise; a value stands in single
quotes. Inside quotes, a quote is written twice.

## Main definitions

* `doubled`, `quoted`: a text between quotes.
* `isBare`: whether a name needs no quotes.
* `quoteIdentifier`, `quoteLiteral`: a name and a value as written.
-/

namespace Schemata.Sql

/-- The words that the database does not accept as bare names. -/
def reserved : List String := [
  "all", "analyse", "analyze", "and", "any", "array", "as", "asc", "asymmetric", "both", "case",
  "cast", "check", "collate", "column", "constraint", "create", "current_catalog", "current_date",
  "current_role", "current_time", "current_timestamp", "current_user", "default", "deferrable",
  "desc", "distinct", "do", "else", "end", "except", "false", "fetch", "for", "foreign", "from",
  "grant", "group", "having", "in", "initially", "intersect", "into", "lateral", "leading",
  "limit", "localtime", "localtimestamp", "not", "null", "offset", "on", "only", "or", "order",
  "placing", "primary", "references", "returning", "select", "session_user", "some", "symmetric",
  "table", "then", "to", "trailing", "true", "union", "unique", "user", "using", "variadic",
  "when", "where", "window", "with"]

/-- The double quote, around names. -/
def doubleQuote : Char := Char.ofNat 0x22

/-- The single quote, around values. -/
def singleQuote : Char := Char.ofNat 0x27

/-- A text with every quote written twice. -/
def doubled (quote : Char) : List Char → List Char
  | [] => []
  | c :: rest => if c = quote then quote :: quote :: doubled quote rest else c :: doubled quote rest

/-- A text between quotes. -/
def quoted (quote : Char) (cs : List Char) : List Char := quote :: doubled quote cs ++ [quote]

/-- A character that may stand in a bare name. -/
def isBareChar (c : Char) : Bool := Text.isAsciiLower c || Text.isAsciiDigit c || c == '_'

/-- Whether a name may be written bare. -/
def isBare (name : List Char) : Bool :=
  match name with
  | [] => false
  | first :: _ =>
    name.all isBareChar && !Text.isAsciiDigit first && !reserved.contains (String.ofList name)

/-- A name as written. -/
def quoteIdentifier (name : String) : List Char :=
  if isBare name.toList then name.toList else quoted doubleQuote name.toList

/-- A value as written. -/
def quoteLiteral (value : String) : List Char := quoted singleQuote value.toList

end Schemata.Sql
