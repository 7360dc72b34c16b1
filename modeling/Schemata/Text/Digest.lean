import Schemata.Text.Digit

/-!
# Digests of texts

The SHA-256 digest of a text, of which long names carry the first characters. A message is padded
to whole blocks of sixty-four bytes; each block is spread over sixty-four words, which are mixed
one by one into a state of eight words.
-/

namespace Schemata.Text.Digest

/-- Rotate a word to the right. -/
def rotate (w : UInt32) (n : UInt32) : UInt32 := (w >>> n) ||| (w <<< (32 - n))

/-- The constants of the sixty-four rounds. -/
def roundConstants : List UInt32 := [
  0x428a2f98, 0x71374491, 0xb5c0fbcf, 0xe9b5dba5, 0x3956c25b, 0x59f111f1, 0x923f82a4, 0xab1c5ed5,
  0xd807aa98, 0x12835b01, 0x243185be, 0x550c7dc3, 0x72be5d74, 0x80deb1fe, 0x9bdc06a7, 0xc19bf174,
  0xe49b69c1, 0xefbe4786, 0x0fc19dc6, 0x240ca1cc, 0x2de92c6f, 0x4a7484aa, 0x5cb0a9dc, 0x76f988da,
  0x983e5152, 0xa831c66d, 0xb00327c8, 0xbf597fc7, 0xc6e00bf3, 0xd5a79147, 0x06ca6351, 0x14292967,
  0x27b70a85, 0x2e1b2138, 0x4d2c6dfc, 0x53380d13, 0x650a7354, 0x766a0abb, 0x81c2c92e, 0x92722c85,
  0xa2bfe8a1, 0xa81a664b, 0xc24b8b70, 0xc76c51a3, 0xd192e819, 0xd6990624, 0xf40e3585, 0x106aa070,
  0x19a4c116, 0x1e376c08, 0x2748774c, 0x34b0bcb5, 0x391c0cb3, 0x4ed8aa4a, 0x5b9cca4f, 0x682e6ff3,
  0x748f82ee, 0x78a5636f, 0x84c87814, 0x8cc70208, 0x90befffa, 0xa4506ceb, 0xbef9a3f7, 0xc67178f2]

/-- The eight words that a digest is made of. -/
structure State where
  a : UInt32
  b : UInt32
  c : UInt32
  d : UInt32
  e : UInt32
  f : UInt32
  g : UInt32
  h : UInt32
  deriving DecidableEq, Repr

/-- The words before any block. -/
def State.initial : State :=
  ⟨0x6a09e667, 0xbb67ae85, 0x3c6ef372, 0xa54ff53a, 0x510e527f, 0x9b05688c, 0x1f83d9ab, 0x5be0cd19⟩

/-- The sum of two states, word by word. -/
def State.add (s t : State) : State :=
  ⟨s.a + t.a, s.b + t.b, s.c + t.c, s.d + t.d, s.e + t.e, s.f + t.f, s.g + t.g, s.h + t.h⟩

/-- Mix one word of the schedule, added to its round constant, into the state. -/
def State.mix (s : State) (word : UInt32) : State :=
  let choice := (s.e &&& s.f) ^^^ ((~~~ s.e) &&& s.g)
  let majority := (s.a &&& s.b) ^^^ (s.a &&& s.c) ^^^ (s.b &&& s.c)
  let fromE := s.h + (rotate s.e 6 ^^^ rotate s.e 11 ^^^ rotate s.e 25) + choice + word
  let fromA := (rotate s.a 2 ^^^ rotate s.a 13 ^^^ rotate s.a 22) + majority
  ⟨fromE + fromA, s.a, s.b, s.c, s.d + fromE, s.e, s.f, s.g⟩

/-- The eight bytes of a length in bits, most significant first. -/
def lengthBytes (bits : Nat) : List UInt8 :=
  [56, 48, 40, 32, 24, 16, 8, 0].map fun shift => (bits >>> shift).toUInt8

/-- A message padded to whole blocks: one set bit, zeros, and the length. -/
def pad (message : List UInt8) : List UInt8 :=
  let zeros := (119 - message.length % 64) % 64
  message ++ 0x80 :: List.replicate zeros 0 ++ lengthBytes (8 * message.length)

/-- Big-endian words of a list of bytes; an incomplete word at the end is left out. -/
def words : List UInt8 → List UInt32
  | w :: x :: y :: z :: rest =>
    ((w.toUInt32 <<< 24) ||| (x.toUInt32 <<< 16) ||| (y.toUInt32 <<< 8) ||| z.toUInt32)
      :: words rest
  | _ => []

/-- Add `n` words to a schedule. The schedule is kept newest first: the new word draws on the
words 2, 7, 15 and 16 places back. -/
def extend : Nat → List UInt32 → List UInt32
  | 0, newest => newest
  | n + 1, newest =>
    let back (i : Nat) : UInt32 := newest.getD (i - 1) 0
    let small0 := rotate (back 15) 7 ^^^ rotate (back 15) 18 ^^^ (back 15 >>> 3)
    let small1 := rotate (back 2) 17 ^^^ rotate (back 2) 19 ^^^ (back 2 >>> 10)
    extend n ((small1 + back 7 + small0 + back 16) :: newest)

/-- The sixty-four words that a block is spread over. -/
def schedule (block : List UInt32) : List UInt32 := (extend 48 block.reverse).reverse

/-- Take one block of sixteen words into the state. -/
def absorb (s : State) (block : List UInt32) : State :=
  s.add ((List.zipWith (· + ·) roundConstants (schedule block)).foldl State.mix s)

/-- Take `n` blocks into the state. -/
def absorbBlocks : Nat → State → List UInt32 → State
  | 0, s, _ => s
  | n + 1, s, ws => absorbBlocks n (absorb s (ws.take 16)) (ws.drop 16)

/-- The digest of a message. -/
def ofBytes (message : List UInt8) : State :=
  let ws := words (pad message)
  absorbBlocks (ws.length / 16) State.initial ws

/-- The eight hexadecimal digits of a word. -/
def hexWord (w : UInt32) : List Char :=
  [28, 24, 20, 16, 12, 8, 4, 0].map fun shift => hexDigit (w.toNat >>> shift % 16)

/-- The hexadecimal form of a digest. -/
def State.hex (s : State) : List Char :=
  [s.a, s.b, s.c, s.d, s.e, s.f, s.g, s.h].flatMap hexWord

/-- The first eight hexadecimal digits of the digest of a text. -/
def short (text : List Char) : List Char :=
  (ofBytes (String.ofList text).toUTF8.data.toList).hex.take 8

end Schemata.Text.Digest
