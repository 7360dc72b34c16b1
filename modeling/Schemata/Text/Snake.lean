import Schemata.Text.Class

/-!
# Snake case

A name such as `ContactInfo` is written `contact_info`: a low line stands where a capital, a digit
or a character beyond ASCII meets a lower-case neighbour, and where other characters separate words.

Neighbours are looked up by the byte offset of a character, read as a position among the characters
of the name. For an ASCII name that is the character before and the one after; behind a character
of several bytes it lies further on.
-/

namespace Schemata.Text

/-- Whether the name has a lower-case character at a position. -/
def lowercaseAt (name : List Char) (i : Nat) : Bool :=
  match name[i]? with
  | some c => isLowercase c
  | none => false

/-- Whether a character may open a word inside a name: a capital, a digit, or any character beyond
ASCII. -/
def mayOpenWord (c : Char) : Bool := !isAsciiLower c

/-- The snake case of the characters from byte offset `offset` on. `fresh` says that a word has yet
to begin. -/
def snakeFrom (name : List Char) (offset : Nat) (fresh : Bool) : List Char → List Char
  | [] => []
  | c :: rest =>
    let next := offset + c.utf8Size
    if !isAlphanumeric c then
      if fresh then snakeFrom name next true rest else '_' :: snakeFrom name next true rest
    else if !fresh && mayOpenWord c
        && (lowercaseAt name (offset + 1) || lowercaseAt name (offset - 1)) then
      '_' :: asciiLower c :: snakeFrom name next false rest
    else
      asciiLower c :: snakeFrom name next false rest

/-- The characters up to the last that satisfies `p`. -/
def dropTrailing (p : Char → Bool) (cs : List Char) : List Char :=
  (cs.reverse.dropWhile p).reverse

/-- The snake case of a name. Separators at its end are left out. -/
def snakeChars (name : List Char) : List Char :=
  snakeFrom name 0 true (dropTrailing (fun c => !isAlphanumeric c) name)

/-- The snake case of a name. -/
def snake (name : String) : String := String.ofList (snakeChars name.toList)

end Schemata.Text
