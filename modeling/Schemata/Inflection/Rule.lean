import Schemata.Text.Class

/-!
# Inflection rules

A rule replaces the ending of a word. It speaks of two parts at the end of the word: a stem, which
stays, and an ending, which is replaced. Rules are data, so the tables of plural and singular forms
can be read as tables.

A rule keeps the stem and, when it says so, the run of word characters in front of it. Whatever
stands further in front is not part of the noun and is dropped.

## Main definitions

* `Letter`, `Pattern`: which characters a position accepts.
* `Rule`: stems, endings, replacement.
* `Rule.apply?`: the word with its ending replaced, when the rule fits.
-/

namespace Schemata.Inflection

/-- What one position of a pattern accepts. -/
inductive Letter where
  /-- Exactly one character. -/
  | is (c : Char)
  /-- Any of the characters. -/
  | oneOf (cs : List Char)
  /-- Any character but these. -/
  | noneOf (cs : List Char)
  deriving DecidableEq, Repr

/-- Whether a position accepts a character. -/
def Letter.accepts : Letter → Char → Bool
  | .is c, x => c == x
  | .oneOf cs, x => cs.contains x
  | .noneOf cs, x => !cs.contains x

/-- A sequence of positions. -/
abbrev Pattern := List Letter

/-- The pattern that accepts one text only. -/
def Pattern.ofString (s : String) : Pattern := s.toList.map .is

/-- Whether a pattern accepts a text, position by position. -/
def Pattern.accepts : Pattern → List Char → Bool
  | [], [] => true
  | l :: ls, c :: cs => l.accepts c && Pattern.accepts ls cs
  | _, _ => false

/-- Where in the word a rule looks. -/
inductive Place where
  /-- At its end. -/
  | ending
  /-- At the word as a whole. -/
  | whole
  /-- At its beginning; what follows is dropped. -/
  | beginning
  deriving DecidableEq, Repr

/-- A rule of inflection. -/
structure Rule where
  /-- The parts that stay, in the order of preference. -/
  stems : List Pattern
  /-- The parts that are replaced. -/
  endings : List Pattern
  /-- What stands in place of the ending. -/
  replacement : String
  /-- Whether the run of word characters in front of the stem stays too. -/
  keepsRun : Bool := true
  /-- Where the rule looks. -/
  place : Place := .ending
  deriving Repr

/-- The longest run of word characters at the end of a text. -/
def trailingRun (cs : List Char) : List Char :=
  (cs.reverse.takeWhile Text.isWordChar).reverse

/-- A way in which a rule fits a word: where it begins, and the text it keeps. -/
structure Fit where
  start : Nat
  kept : List Char
  deriving DecidableEq, Repr

/-- How a stem and an ending fit at the end of a word. -/
def Rule.fitAtEnd? (rule : Rule) (word : List Char) (stem ending : Pattern) : Option Fit :=
  let size := stem.length + ending.length
  if word.length < size then none
  else
    let front := word.take (word.length - size)
    let tail := word.drop (word.length - size)
    if (stem ++ ending).accepts tail then
      let run := if rule.keepsRun then trailingRun front else []
      some ⟨front.length - run.length, run ++ tail.take stem.length⟩
    else none

/-- How a stem and an ending fit at the beginning of a word. -/
def fitAtBeginning? (word : List Char) (stem ending : Pattern) : Option Fit :=
  if (stem ++ ending).accepts (word.take (stem.length + ending.length)) then
    some ⟨0, word.take stem.length⟩
  else none

/-- How a stem and an ending fit a word. -/
def Rule.fit? (rule : Rule) (word : List Char) (stem ending : Pattern) : Option Fit :=
  match rule.place with
  | .ending => rule.fitAtEnd? word stem ending
  | .whole =>
    if word.length = stem.length + ending.length then rule.fitAtEnd? word stem ending else none
  | .beginning => fitAtBeginning? word stem ending

/-- Of two fits the one that begins further left; the first of equals. -/
def Fit.leftmost : Option Fit → Fit → Option Fit
  | none, f => some f
  | some g, f => if f.start < g.start then some f else some g

/-- Every way in which a rule fits a word. -/
def Rule.fits (rule : Rule) (word : List Char) : List Fit :=
  rule.stems.flatMap fun stem => rule.endings.filterMap fun ending => rule.fit? word stem ending

/-- The word with its ending replaced, by the fit that begins furthest left. -/
def Rule.apply? (rule : Rule) (word : List Char) : Option (List Char) :=
  ((rule.fits word).foldl Fit.leftmost none).map fun fit => fit.kept ++ rule.replacement.toList

/-- The word as the first rule that fits leaves it. -/
def applyFirst? (rules : List Rule) (word : List Char) : Option (List Char) :=
  rules.findSome? fun rule => rule.apply? word

/-! ## Building tables of rules -/

/-- A rule that keeps the run before the stem. -/
def replacing (stems endings : List Pattern) (replacement : String) : Rule :=
  { stems := stems, endings := endings, replacement := replacement }

/-- A rule that keeps the stem only. -/
def replacingBare (stems endings : List Pattern) (replacement : String) : Rule :=
  { stems := stems, endings := endings, replacement := replacement, keepsRun := false }

/-- Patterns of single texts. -/
def texts (ss : List String) : List Pattern := ss.map Pattern.ofString

/-- The pattern of nothing, as the only choice. -/
def nothing : List Pattern := [[]]

/-- The vowels that rules ask about. -/
def vowels : List Char := ['a', 'e', 'i', 'o', 'u']

end Schemata.Inflection
