import Schemata.Inflection.Rule
import Schemata.Inflection.Uncountable

/-!
# Singular forms

The rules that turn a noun in lower case into its singular, in the order in which they are tried.
A noun that no rule fits is taken to be singular already.
-/

namespace Schemata.Inflection

/-- Nouns whose singular follows no rule. -/
def specialSingulars : List (String × String) := [
  ("oxen", "ox"), ("boxes", "box"), ("men", "man"), ("women", "woman"), ("dice", "die"),
  ("yeses", "yes"), ("feet", "foot"), ("eaves", "eave"), ("geese", "goose"), ("teeth", "tooth"),
  ("quizzes", "quiz")]

/-- The rules of the singular, in the order in which they are tried. -/
def singularRules : List Rule := [
  replacingBare (texts ["database"]) (texts ["s"]) "",
  replacingBare (texts ["quiz"]) (texts ["zes"]) "",
  replacingBare (texts ["matr"]) (texts ["ices"]) "ix",
  replacingBare (texts ["vert", "ind"]) (texts ["ices"]) "ex",
  { replacingBare (texts ["ox"]) (texts ["en"]) "" with place := .beginning },
  replacingBare (texts ["alias", "status"]) (texts ["es", ""]) "",
  replacingBare (texts ["octop", "vir"]) (texts ["us", "i"]) "us",
  { replacingBare (texts ["a"]) [[.is 'x', .oneOf ['i', 'e'], .is 's']] "xis" with
    place := .whole },
  replacingBare (texts ["cris", "test"]) (texts ["is", "es"]) "is",
  replacingBare (texts ["shoe"]) (texts ["s"]) "",
  replacingBare (texts ["bus"]) (texts ["es", ""]) "",
  replacingBare (texts ["m", "l"]) (texts ["ice"]) "ouse",
  replacing (texts ["x", "ch", "ss", "sh"]) (texts ["es"]) "",
  replacingBare (texts ["m"]) (texts ["ovies"]) "ovie",
  replacingBare (texts ["s"]) (texts ["eries"]) "eries",
  replacing [[.noneOf ('y' :: vowels)], Pattern.ofString "qu"] (texts ["ies"]) "y",
  replacing nothing [.oneOf ['l', 'r'] :: Pattern.ofString "ves"] "f",
  replacing nothing (texts ["tives"]) "",
  replacing nothing (texts ["hives"]) "",
  replacing nothing [.noneOf ['f'] :: Pattern.ofString "ves"] "fe",
  { replacingBare (texts ["analy"]) (texts ["sis", "ses"]) "sis" with place := .whole },
  replacingBare (texts ["analy", "ba", "diagno", "parenthe", "progno", "synop", "the"])
    (texts ["sis", "ses"]) "sis",
  replacing nothing [[.oneOf ['t', 'i'], .is 'a']] "um",
  replacing nothing (texts ["oes"]) "",
  replacingBare (texts ["n"]) (texts ["ews"]) "ews",
  replacing (texts ["ss"]) nothing "",
  replacing nothing (texts ["s"]) ""]

/-- Whether a character may stand in the name of a reference. -/
def isReferenceChar (c : Char) : Bool :=
  Text.isAsciiLetter c || Text.isAsciiDigit c || c == '_'

/-- A text without its references: a dollar sign is dropped with the name that follows it. A dollar
sign that no name follows stays. `inside` says whether the text begins inside a name. -/
def dropReferences (inside : Bool) : List Char → List Char
  | [] => []
  | c :: rest =>
    if inside && isReferenceChar c then dropReferences true rest
    else if c == '$' && rest.head?.any isReferenceChar then dropReferences true rest
    else c :: dropReferences false rest

/-- The singular of a noun in lower case. What a rule makes of a noun holds no reference. -/
def regularSingular (word : List Char) : List Char :=
  if uncountable.contains (String.ofList word) then word
  else match specialSingulars.lookup (String.ofList word) with
    | some singular => singular.toList
    | none => ((applyFirst? singularRules word).map (dropReferences false)).getD word

end Schemata.Inflection
