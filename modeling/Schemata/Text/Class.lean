import Schemata.Text.Table.Alphabetic
import Schemata.Text.Table.CaseIgnorable
import Schemata.Text.Table.Cased
import Schemata.Text.Table.Lowercase
import Schemata.Text.Table.Mark
import Schemata.Text.Table.Newest
import Schemata.Text.Table.Number

/-!
# Character classes

The classes of characters that naming and templates speak of. Each class is spelled out for ASCII
and read from a table beyond it, so a question about an ASCII character never reaches a table.

## Main definitions

* `isAlphanumeric`: letters and numbers of any script.
* `isWordChar`: what may stand inside a word: letters, marks, digits, connectors and joiners.
* `isLowercase`, `isCased`, `isCaseIgnorable`: the classes that case conversion asks about.
* `isWhite`, `isBlank`: white space, and texts made of nothing else.
-/

namespace Schemata.Text

/-- Whether a character is ASCII. -/
def isAscii (c : Char) : Bool := c.toNat < 128

/-- An ASCII lower-case letter. -/
def isAsciiLower (c : Char) : Bool := 'a' ≤ c && c ≤ 'z'

/-- An ASCII upper-case letter. -/
def isAsciiUpper (c : Char) : Bool := 'A' ≤ c && c ≤ 'Z'

/-- An ASCII decimal digit. -/
def isAsciiDigit (c : Char) : Bool := '0' ≤ c && c ≤ '9'

/-- An ASCII letter. -/
def isAsciiLetter (c : Char) : Bool := isAsciiLower c || isAsciiUpper c

/-- A letter or number of any script. -/
def isAlphanumeric (c : Char) : Bool :=
  if isAscii c then isAsciiLetter c || isAsciiDigit c
  else inRuns alphabetic c || inRuns decimalDigit c || inRuns otherNumber c

/-- Punctuation that connects the parts of a word, beyond the low line. -/
def connector : List Run := [⟨0x203F, 0x2040, 1⟩, ⟨0x2054, 0x2054, 1⟩, ⟨0xFE33, 0xFE34, 1⟩,
  ⟨0xFE4D, 0xFE4F, 1⟩, ⟨0xFF3F, 0xFF3F, 1⟩]

/-- The two joiners, which shape a word without being seen. -/
def joiner : List Run := [⟨0x200C, 0x200D, 1⟩]

/-- A character that may stand inside a word. The newest characters are not among them. -/
def isWordChar (c : Char) : Bool :=
  if isAscii c then isAsciiLetter c || isAsciiDigit c || c == '_'
  else (inRuns alphabetic c || inRuns mark c || inRuns decimalDigit c || inRuns connector c
    || inRuns joiner c) && !inRuns newest c

/-- A lower-case character of any script. -/
def isLowercase (c : Char) : Bool :=
  if isAscii c then isAsciiLower c else inRuns lowercase c

/-- A character that has a case. -/
def isCased (c : Char) : Bool :=
  if isAscii c then isAsciiLetter c else inRuns cased c

/-- A character that case conversion looks through. -/
def isCaseIgnorable (c : Char) : Bool :=
  if isAscii c then c ∈ [Char.ofNat 0x27, '.', ':', '^', Char.ofNat 0x60]
  else inRuns caseIgnorable c

/-- White space beyond ASCII. -/
def whiteSpace : List Run := [⟨0x85, 0x85, 1⟩, ⟨0xA0, 0xA0, 1⟩, ⟨0x1680, 0x1680, 1⟩,
  ⟨0x2000, 0x200A, 1⟩, ⟨0x2028, 0x2029, 1⟩, ⟨0x202F, 0x202F, 1⟩, ⟨0x205F, 0x205F, 1⟩,
  ⟨0x3000, 0x3000, 1⟩]

/-- White space of any script. -/
def isWhite (c : Char) : Bool :=
  if isAscii c then c == ' ' || (0x09 ≤ c.toNat && c.toNat ≤ 0x0D) else inRuns whiteSpace c

/-- A text that is empty or made of white space only. -/
def isBlank (s : String) : Bool := s.toList.all isWhite

/-- The ASCII lower case of a character; every other character stays. -/
def asciiLower (c : Char) : Char :=
  if isAsciiUpper c then Char.ofNat (c.toNat + 32) else c

end Schemata.Text
