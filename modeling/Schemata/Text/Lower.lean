import Schemata.Text.Class
import Schemata.Text.Table.LowerMapping

/-!
# Lower case

Lower case of a text in any script. Two rules go beyond the table of single characters: capital I
with a dot becomes two characters, and a capital sigma that ends a word becomes the final sigma.
-/

namespace Schemata.Text

/-- The image of a code point in a table of runs with the images of their first members. -/
def mapRuns (table : List (Run × Nat)) (n : Nat) : Option Nat :=
  (table.find? (·.1.contains n)).map fun (run, image) => image + (n - run.first)

/-- Lower case of one character, apart from its surroundings. -/
def lowerChar (c : Char) : List Char :=
  if isAscii c then [asciiLower c]
  else if c.toNat = 0x130 then ['i', Char.ofNat 0x307]
  else [((mapRuns lowerMapping c.toNat).map Char.ofNat).getD c]

/-- Whether the first character that is not case-ignorable has a case. -/
def startsCased (cs : List Char) : Bool :=
  match cs.dropWhile isCaseIgnorable with
  | [] => false
  | c :: _ => isCased c

/-- Capital sigma. -/
def capitalSigma : Char := Char.ofNat 0x3A3

/-- Lower case of `rest`, where `before` holds the characters already passed, nearest first. A sigma
is final when a cased character stands before it and none after it. -/
def lowerFrom (before : List Char) : List Char → List Char
  | [] => []
  | c :: rest =>
    let image :=
      if c = capitalSigma then
        [Char.ofNat (if startsCased before && !startsCased rest then 0x3C2 else 0x3C3)]
      else lowerChar c
    image ++ lowerFrom (c :: before) rest

/-- Lower case of a text. -/
def lower (cs : List Char) : List Char := lowerFrom [] cs

end Schemata.Text
