import Schemata.Inflection.Plural
import Schemata.Inflection.Singular
import Schemata.Text.Lower

/-!
# Nouns in identifiers

The number of a noun, and of an identifier in snake case. An identifier is inflected by its last
segment alone, so compound names follow their head noun: `search_index` becomes `search_indices`.

## Main definitions

* `pluralNoun`, `singularNoun`: the number of one word.
* `plural`, `singular`: the number of an identifier.
-/

namespace Schemata.Inflection

/-- Nouns that are inflected before any rule is asked, with their plurals. -/
def irregular : List (String × String) := [
  ("person", "people"), ("child", "children"), ("man", "men"), ("woman", "women"),
  ("foot", "feet"), ("tooth", "teeth"), ("goose", "geese"), ("mouse", "mice"), ("ox", "oxen"),
  ("index", "indices"), ("appendix", "appendices"), ("matrix", "matrices"),
  ("vertex", "vertices"), ("criterion", "criteria")]

/-- The irregular noun that a word is a form of, in either number. -/
def irregular? (word : List Char) : Option (String × String) :=
  irregular.find? fun noun => noun.1 == String.ofList word || noun.2 == String.ofList word

/-- The plural of a word, in lower case. A plural stays. -/
def pluralNoun (word : List Char) : List Char :=
  if word.isEmpty then []
  else
    let lowered := Text.lower word
    match irregular? lowered with
    | some noun => noun.2.toList
    | none => regularPlural lowered

/-- The singular of a word, in lower case. -/
def singularNoun (word : List Char) : List Char :=
  if word.isEmpty then []
  else
    let lowered := Text.lower word
    match irregular? lowered with
    | some noun => noun.1.toList
    | none => regularSingular lowered

/-- The characters after the last low line. -/
def lastSegment (ident : List Char) : List Char :=
  (ident.reverse.takeWhile (· != '_')).reverse

/-- Inflect the last segment of an identifier. An identifier without a last segment, because it
ends in a low line, is inflected as one word. -/
def inflectLast (inflect : List Char → List Char) (ident : List Char) : List Char :=
  let last := lastSegment ident
  if last.isEmpty then inflect ident
  else ident.take (ident.length - last.length) ++ inflect last

/-- The plural of an identifier. -/
def plural (ident : List Char) : List Char := inflectLast pluralNoun ident

/-- The singular of an identifier. -/
def singular (ident : List Char) : List Char := inflectLast singularNoun ident

end Schemata.Inflection
