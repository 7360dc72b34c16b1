import Schemata.Text.Digest
import Schemata.Text.Snake
import Schemata.Text.Utf8

/-!
# Abbreviated identifiers

The database cuts an identifier that is too long, and two names that were distinct may then
coincide. Identifiers are therefore shortened beforehand: each segment is cut to two characters,
and if that is not enough the rest is cut and marked with a digest of the whole identifier.

## Main definitions

* `Abbreviation`: how much may stay, and whether a digest marks what was cut.
* `abbreviate`: an identifier within its limit.
-/

namespace Schemata.Naming

/-- The longest identifier that the database keeps whole, in bytes. -/
def identifierLimit : Nat := 63

/-- How an identifier that is too long is shortened. -/
structure Abbreviation where
  /-- The longest identifier allowed, in bytes. -/
  limit : Nat := identifierLimit
  /-- Whether a digest of the whole identifier takes the place of what is cut off. -/
  marked : Bool := true
  deriving DecidableEq, Repr

/-- The first segments that say what a name is for, and are kept whole. -/
def roles : List (List Char) := [['f', 'k'], ['u', 'k'], ['i', 'd', 'x']]

/-- The segments of an identifier, which low lines separate. -/
def segments (ident : List Char) : List (List Char) := ident.splitOn '_'

/-- An identifier from its segments. -/
def joinSegments (parts : List (List Char)) : List Char := ['_'].intercalate parts

/-- A segment cut to its first two characters. -/
def cutSegment (segment : List Char) : List Char := segment.take 2

/-- Each segment cut, but for a role in front. -/
def cutSegments : List (List Char) → List (List Char)
  | [] => []
  | first :: rest =>
    (if roles.contains first then first else cutSegment first) :: rest.map cutSegment

/-- An identifier with its segments cut. -/
def cut (ident : List Char) : List Char := joinSegments (cutSegments (segments ident))

/-- How many bytes a digest takes, with the low line in front of it. -/
def markSize : Nat := 9

/-- The beginning of a text that leaves room for a digest. Low lines at its end are left out. -/
def markedStem (limit : Nat) (short : List Char) : List Char :=
  Text.dropTrailing (· == '_') (Text.takeBytes (limit - markSize) short)

/-- An identifier within the limit. -/
def abbreviateChars (how : Abbreviation) (ident : List Char) : List Char :=
  if Text.byteLength ident ≤ how.limit then ident
  else
    let short := cut ident
    if Text.byteLength short ≤ how.limit then short
    else if how.marked then markedStem how.limit short ++ '_' :: Text.Digest.short ident
    else Text.takeBytes how.limit short

/-- An identifier within the limit. -/
def abbreviate (how : Abbreviation) (ident : String) : String :=
  String.ofList (abbreviateChars how ident.toList)

end Schemata.Naming
