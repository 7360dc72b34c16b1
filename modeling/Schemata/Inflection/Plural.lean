import Schemata.Inflection.Rule
import Schemata.Inflection.Uncountable

/-!
# Plural forms

The rules that turn a noun in lower case into its plural. Rules are listed in the order in which
they are tried, the most particular first. A noun that no rule fits takes an `s`.
-/

namespace Schemata.Inflection

/-- Nouns whose plural follows no rule. -/
def specialPlurals : List (String × String) := [
  ("ox", "oxen"), ("man", "men"), ("woman", "women"), ("die", "dice"), ("yes", "yeses"),
  ("foot", "feet"), ("eave", "eaves"), ("goose", "geese"), ("tooth", "teeth"), ("quiz", "quizzes")]

/-- The sounds after which an `e` is spoken before the `s`. -/
def sibilants : List String := ["x", "ch", "ss", "sh", "zz"]

/-- The rules of the plural, in the order in which they are tried. -/
def pluralRules : List Rule := [
  replacing (texts ["eaux"]) nothing "",
  replacing (texts ["child"]) (texts ["ren", ""]) "ren",
  replacing (texts ["person", "people"]) nothing "ople",
  replacing (texts ["mice", "mouse", "lice", "louse"]) nothing "ice",
  replacing (texts ["matr", "cod", "mur", "sil", "vert", "ind", "append"]) (texts ["ix", "ex"])
    "ices",
  replacing (texts sibilants) nothing "es",
  replacing (texts (sibilants.map (· ++ "es"))) nothing "",
  replacing [[.noneOf ['c', 'h'], .oneOf ['i', 'e', 'o'], .oneOf ['l', 'n']]] (texts ["ey"]) "ies",
  replacing [[.noneOf ('y' :: vowels)], Pattern.ofString "qu"] (texts ["y"]) "ies",
  replacing (texts ["ar", "l", "ea", "eo", "oa", "hoo"]) (texts ["f"]) "ves",
  replacing (texts ["kni", "wi", "li"]) (texts ["fe"]) "ves",
  replacing nothing (texts ["sis"]) "ses",
  replacing (texts ["apheli", "hyperbat", "periheli", "asyndet", "noumen", "phenomen", "criteri",
    "organ", "prolegomen", "hedr", "automat"]) (texts ["a", "on"]) "a",
  replacing (texts ["agend", "addend", "millenni", "dat", "extrem", "bacteri", "desiderat", "strat",
    "candelabr", "errat", "ov", "symposi", "curricul", "automat", "quor"]) (texts ["a", "um"]) "a",
  replacing (texts ["her", "at", "gr"]) (texts ["o"]) "oes",
  replacing (texts ["seraph", "cherub"]) (texts ["im", ""]) "im",
  replacing (texts ["alumn", "alg", "vertebr"]) (texts ["a", "ae"]) "ae",
  replacing (texts ["alumn", "syllab", "octop", "vir", "radi", "nucle", "fung", "cact", "stimul",
    "termin", "bacill", "foc", "uter", "loc", "strat"]) (texts ["us", "i"]) "i",
  replacing [.noneOf ['l'] :: Pattern.ofString "ias", .oneOf vowels :: Pattern.ofString "las",
    .oneOf ['e', 'm', 'j', 'z', 'r'] :: Pattern.ofString "as",
    .oneOf ['i', 'u'] :: Pattern.ofString "am"] nothing "",
  replacing [[.is 'e', .oneOf ['m', 'n'], .is 'u']] (texts ["s", ""]) "s",
  replacing [Pattern.ofString "alias", .noneOf ['a', 'o', 'u'] :: Pattern.ofString "us",
    Pattern.ofString "tlas", Pattern.ofString "gas", Pattern.ofString "ris"] nothing "es",
  replacing (texts ["ax", "test"]) (texts ["is"]) "es",
  replacing [.noneOf vowels :: Pattern.ofString "ese"] nothing "",
  replacing nothing (texts ["s"]) "s"]

/-- The plural of a noun in lower case. -/
def regularPlural (word : List Char) : List Char :=
  if uncountable.contains (String.ofList word) then word
  else match specialPlurals.lookup (String.ofList word) with
    | some plural => plural.toList
    | none => (applyFirst? pluralRules word).getD (word ++ ['s'])

end Schemata.Inflection
