import Schemata.Document.Value
import Schemata.Text.Class
import Schemata.Text.Digit

/-!
# Reading JSON

A strict reader of JSON texts. A number written without point and exponent is an integer while it
fits sixty-four bits, signed or not; any other number is the nearest double, and a number beyond
the range of doubles is refused. Of two entries with one name the later counts.

## Main definitions

* `number?`, `string?`: the scalars at the beginning of a text.
* `read?`: the value that a whole text denotes.
-/

namespace Schemata.Document.Json

open Decimal Text

/-- Drop blanks. -/
def skip (cs : List Char) : List Char :=
  cs.dropWhile fun c => c == ' ' || c == '\n' || c == '\t' || c == '\r'

/-- The value of four hexadecimal digits. -/
def unit? (a b c d : Char) : Option Nat := do
  return ofDigits 16 [← hexValue? a, ← hexValue? b, ← hexValue? c, ← hexValue? d]

/-- What a character after a backslash stands for. -/
def escape? : Char → Option Char
  | '"' => some '"'
  | '\\' => some '\\'
  | '/' => some '/'
  | 'b' => some (Char.ofNat 8)
  | 'f' => some (Char.ofNat 12)
  | 'n' => some '\n'
  | 'r' => some '\r'
  | 't' => some '\t'
  | _ => none

/-- Whether a code unit opens a surrogate pair. -/
def isHighSurrogate (n : Nat) : Bool := 0xD800 ≤ n && n < 0xDC00

/-- Whether a code unit closes a surrogate pair. -/
def isLowSurrogate (n : Nat) : Bool := 0xDC00 ≤ n && n < 0xE000

/-- The character that a surrogate pair stands for. -/
def pairChar (high low : Nat) : Char :=
  Char.ofNat (0x10000 + (high - 0xD800) * 0x400 + (low - 0xDC00))

/-- The rest of a string after its opening quote, and what follows the closing one. -/
def string? : List Char → Option (List Char × List Char)
  | [] => none
  | '"' :: rest => some ([], rest)
  | '\\' :: 'u' :: a :: b :: c :: d :: rest =>
    match unit? a b c d with
    | none => none
    | some n =>
      if isHighSurrogate n then
        match rest with
        | '\\' :: 'u' :: e :: f :: g :: h :: rest' =>
          match unit? e f g h with
          | none => none
          | some m =>
            if isLowSurrogate m then
              (string? rest').map fun r => (pairChar n m :: r.1, r.2)
            else none
        | _ => none
      else if isLowSurrogate n then none
      else (string? rest).map fun r => (Char.ofNat n :: r.1, r.2)
  | '\\' :: c :: rest =>
    match escape? c with
    | none => none
    | some x => (string? rest).map fun r => (x :: r.1, r.2)
  | c :: rest =>
    if c.toNat < 0x20 || c == '\\' then none
    else (string? rest).map fun r => (c :: r.1, r.2)

/-- The digits at the beginning of a text; at least one. -/
def digits? (cs : List Char) : Option (List Char × List Char) :=
  match cs.span Text.isAsciiDigit with
  | ([], _) => none
  | (ds, rest) => some (ds, rest)

/-- The digits before the point: a zero, or digits that do not begin with one. -/
def wholePart? : List Char → Option (List Char × List Char)
  | '0' :: rest => some (['0'], rest)
  | cs => digits? cs

/-- The digits after the point, when there is one. -/
def fractionPart? : List Char → Option (Option (List Char) × List Char)
  | '.' :: rest => (digits? rest).map fun r => (some r.1, r.2)
  | cs => some (none, cs)

/-- A signed exponent, after its mark. -/
def exponentDigits? : List Char → Option (Int × List Char)
  | '-' :: rest => (digits? rest).map fun r => (-(decimalValue r.1 : Int), r.2)
  | '+' :: rest => (digits? rest).map fun r => ((decimalValue r.1 : Int), r.2)
  | cs => (digits? cs).map fun r => ((decimalValue r.1 : Int), r.2)

/-- The exponent, when there is one. -/
def exponentPart? : List Char → Option (Option Int × List Char)
  | 'e' :: rest | 'E' :: rest => (exponentDigits? rest).map fun r => (some r.1, r.2)
  | cs => some (none, cs)

/-- A whole number: an integer while it fits sixty-four bits, and not minus zero. -/
def wholeNumber? (negative : Bool) (n : Nat) : Option Value :=
  if negative then
    if 0 < n && n ≤ Nat.pow 2 63 then some (.int (-n)) else (Double.ofDecimal? true n 0).map .float
  else if n < Nat.pow 2 64 then some (.int n)
  else (Double.ofDecimal? false n 0).map .float

/-- The number at the beginning of a text, after its sign. -/
def unsigned? (negative : Bool) (cs : List Char) : Option (Value × List Char) := do
  let (whole, cs) ← wholePart? cs
  let (fraction, cs) ← fractionPart? cs
  let (exponent, cs) ← exponentPart? cs
  match fraction, exponent with
  | none, none => return (← wholeNumber? negative (decimalValue whole), cs)
  | _, _ =>
    let after := fraction.getD []
    let x ← Double.ofDecimal? negative (decimalValue (whole ++ after))
      (exponent.getD 0 - after.length)
    return (.float x, cs)

/-- The number at the beginning of a text. -/
def number? : List Char → Option (Value × List Char)
  | '-' :: rest => unsigned? true rest
  | cs => unsigned? false cs

/-- How many lists and tables may stand inside each other. -/
def maxDepth : Nat := 127

mutual

/-- The value at the beginning of a text, with at most `depth` further levels inside. -/
def value? : Nat → Nat → List Char → Option (Value × List Char)
  | 0, _, _ => none
  | fuel + 1, depth, cs =>
    match skip cs with
    | 'n' :: 'u' :: 'l' :: 'l' :: rest => some (.null, rest)
    | 't' :: 'r' :: 'u' :: 'e' :: rest => some (.bool true, rest)
    | 'f' :: 'a' :: 'l' :: 's' :: 'e' :: rest => some (.bool false, rest)
    | '"' :: rest => (string? rest).map fun r => (.text (String.ofList r.1), r.2)
    | '[' :: rest =>
      if depth = 0 then none
      else match skip rest with
        | ']' :: rest => some (.list [], rest)
        | rest => (items? fuel (depth - 1) rest).map fun r => (.list r.1, r.2)
    | '\x7b' :: rest =>
      if depth = 0 then none
      else match skip rest with
        | '\x7d' :: rest => some (.table [], rest)
        | rest => (entries? fuel (depth - 1) [] rest).map fun r => (.table r.1, r.2)
    | rest => number? rest

/-- The items of a list, up to its end. -/
def items? : Nat → Nat → List Char → Option (List Value × List Char)
  | 0, _, _ => none
  | fuel + 1, depth, cs =>
    match value? fuel depth cs with
    | none => none
    | some (v, rest) =>
      match skip rest with
      | ',' :: rest => (items? fuel depth rest).map fun r => (v :: r.1, r.2)
      | ']' :: rest => some ([v], rest)
      | _ => none

/-- The entries of a table, up to its end, added to those before. -/
def entries? : Nat → Nat → List (String × Value) → List Char →
    Option (List (String × Value) × List Char)
  | 0, _, _, _ => none
  | fuel + 1, depth, before, cs =>
    match skip cs with
    | '"' :: rest =>
      match string? rest with
      | none => none
      | some (name, rest) =>
        match skip rest with
        | ':' :: rest =>
          match value? fuel depth rest with
          | none => none
          | some (v, rest) =>
            let entries := putEntry before (String.ofList name) v
            match skip rest with
            | ',' :: rest => entries? fuel depth entries rest
            | '\x7d' :: rest => some (entries, rest)
            | _ => none
        | _ => none
    | _ => none

end

/-- The value that a whole text denotes. Every step of the reader consumes a character or goes from
a list to its first item, so twice the length bounds their number. -/
def read? (text : String) : Option Value :=
  let cs := text.toList
  match value? (2 * cs.length + 2) maxDepth cs with
  | some (v, rest) => if (skip rest).isEmpty then some v else none
  | none => none

end Schemata.Document.Json
