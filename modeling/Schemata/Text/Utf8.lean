/-!
# UTF-8

Sizes of texts in bytes, cutting a text at a number of bytes, and reading bytes that may not be
UTF-8 at all.

## Main definitions

* `byteLength`: the UTF-8 size of a list of characters.
* `takeBytes`: the longest beginning of whole characters that fits into a number of bytes.
* `decodeLossy`: reads bytes as text; each maximal piece that cannot start or continue a character
  becomes one replacement character.
-/

namespace Schemata.Text

/-- The number of bytes of the UTF-8 form. -/
def byteLength (cs : List Char) : Nat := cs.foldr (fun c n => c.utf8Size + n) 0

/-- The longest beginning of whole characters within a budget of bytes. -/
def takeBytes (budget : Nat) : List Char → List Char
  | [] => []
  | c :: rest =>
    if c.utf8Size ≤ budget then c :: takeBytes (budget - c.utf8Size) rest else []

/-- The bytes that may follow a first byte: how many of them, and the bounds of the nearest one. The
bounds exclude overlong forms, surrogates and code points beyond the last. -/
def continuation (first : UInt8) : Option (Nat × UInt8 × UInt8) :=
  if first < 0x80 then some (0, 0x80, 0xBF)
  else if 0xC2 ≤ first && first ≤ 0xDF then some (1, 0x80, 0xBF)
  else if first = 0xE0 then some (2, 0xA0, 0xBF)
  else if 0xE1 ≤ first && first ≤ 0xEC then some (2, 0x80, 0xBF)
  else if first = 0xED then some (2, 0x80, 0x9F)
  else if 0xEE ≤ first && first ≤ 0xEF then some (2, 0x80, 0xBF)
  else if first = 0xF0 then some (3, 0x90, 0xBF)
  else if 0xF1 ≤ first && first ≤ 0xF3 then some (3, 0x80, 0xBF)
  else if first = 0xF4 then some (3, 0x80, 0x8F)
  else none

/-- The part of the code point that the first byte of a character of `1 + n` bytes carries. -/
def leadBits (n : Nat) (first : UInt8) : Nat :=
  match n with
  | 0 => first.toNat
  | 1 => first.toNat % 0x20
  | 2 => first.toNat % 0x10
  | _ => first.toNat % 0x08

/-- Where a decoder stands: between characters, or with a number of bytes of a character still to
come, the bounds of the next of them and the code point so far. -/
inductive Utf8State where
  /-- Between characters. -/
  | start
  /-- Inside a character: `owed + 1` bytes are to come, the next within the bounds. -/
  | inside (owed : Nat) (low high : UInt8) (code : Nat)
  deriving DecidableEq, Repr

/-- What stands for a piece that is not UTF-8. -/
def replacement : Char := Char.ofNat 0xFFFD

/-- Begin a character with the given byte. -/
def Utf8State.begin (b : UInt8) : Utf8State × List Char :=
  match continuation b with
  | none => (.start, [replacement])
  | some (0, _, _) => (.start, [Char.ofNat b.toNat])
  | some (n + 1, low, high) => (.inside n low high (leadBits (n + 1) b), [])

/-- Read one byte: the next state and the characters that are complete with it. A byte that cannot
continue a character ends the broken piece and is read again as a beginning. -/
def Utf8State.step (s : Utf8State) (b : UInt8) : Utf8State × List Char :=
  match s with
  | .start => Utf8State.begin b
  | .inside owed low high code =>
    if low ≤ b && b ≤ high then
      let code := code * 0x40 + b.toNat % 0x40
      match owed with
      | 0 => (.start, [Char.ofNat code])
      | n + 1 => (.inside n 0x80 0xBF code, [])
    else
      let (next, out) := Utf8State.begin b
      (next, replacement :: out)

/-- Read bytes from a state on. A character cut off by the end is one broken piece. -/
def decodeFrom : Utf8State → List UInt8 → List Char
  | .start, [] => []
  | .inside .., [] => [replacement]
  | s, b :: rest =>
    let (next, out) := s.step b
    out ++ decodeFrom next rest

/-- The text that bytes spell, with a replacement character for each broken piece. -/
def decodeLossy (bytes : ByteArray) : String :=
  String.ofList (decodeFrom .start bytes.data.toList)

/-- The text that bytes spell, if they are UTF-8. -/
def decode? (bytes : ByteArray) : Option String := String.fromUTF8? bytes

/-- Whether bytes are UTF-8. -/
def isUtf8 (bytes : ByteArray) : Bool := (decode? bytes).isSome

end Schemata.Text
