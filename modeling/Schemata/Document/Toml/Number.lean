import Schemata.Document.Value
import Schemata.Text.Class
import Schemata.Text.Digit

/-!
# Numbers of TOML

Integers in four bases, and floats. A number is read in two steps. Its form is checked where it
stands, and a number without the right form makes the document unreadable. Its value is asked for
only when the document is decoded, so a number of the right form may turn out to have no value:
it is out of range, or it has no digits of its base.

## Main definitions

* `integer?`: integers, with low lines between digits.
* `float?`: floats, infinities and numbers that are not numbers.
-/

namespace Schemata.Document.Toml

open Text Decimal

/-- The digits of a number, in which low lines may stand between two digits. -/
def digitGroups? (isDigit : Char → Bool) (cs : List Char) : Option (List Char) :=
  let groups := cs.splitOn '_'
  if groups.all fun g => !g.isEmpty && g.all isDigit then some groups.flatten else none

/-- Whether a digit of some base stands on either side of every low line. -/
def separatesDigits (cs : List Char) : Bool :=
  let isDigit (c : Char) : Bool := (hexValue? c).isSome
  let groups := cs.splitOn '_'
  groups.dropLast.all (·.getLast?.any isDigit) && groups.tail.all (·.head?.any isDigit)

/-- Whether digits begin with a needless zero. -/
def hasLeadingZero : List Char → Bool
  | '0' :: rest => !rest.isEmpty
  | _ => false

/-- A sign, and what follows. -/
def signed : List Char → Bool × List Char
  | '-' :: rest => (true, rest)
  | '+' :: rest => (false, rest)
  | cs => (false, cs)

/-- A whole number with a sign. -/
def withSign (negative : Bool) (n : Nat) : Int := if negative then -(n : Int) else n

/-- An integer. It has a value if it fits a hundred and twenty-eight bits, signed or not. -/
def bounded (n : Int) : Value :=
  if -Int.pow 2 127 ≤ n && n < Int.pow 2 128 then .int n else .badNumber

/-- An integer in another base, after its mark. Without digits it has no value. -/
def based? (base : Nat) (isDigit : Char → Bool) (cs : List Char) : Option Value :=
  if cs.isEmpty then some .badNumber
  else do
    let digits ← digitGroups? isDigit cs
    let values ← digits.mapM hexValue?
    return bounded (ofDigits base values)

/-- An integer in decimal, after its sign. After the first low line anything may stand that makes
no float of it, as long as the low lines separate digits; unless all of it is decimal digits, it
has no value. -/
def decimal? (negative : Bool) (cs : List Char) : Option Value :=
  let (lead, rest) := cs.span isAsciiDigit
  let isForm := rest.isEmpty || (rest.head? == some '_' && separatesDigits cs
    && !rest.any fun c => c == '.' || c == 'e' || c == 'E')
  if lead.isEmpty || hasLeadingZero cs || !isForm then none
  else
    match digitGroups? isAsciiDigit cs with
    | some digits => some (bounded (withSign negative (decimalValue digits)))
    | none => some .badNumber

/-- An integer. Only decimal ones take a sign. -/
def integer? (cs : List Char) : Option Value :=
  match cs with
  | '0' :: 'x' :: rest => based? 16 (fun c => (hexValue? c).isSome) rest
  | '0' :: 'o' :: rest => based? 8 (fun c => '0' ≤ c && c ≤ '7') rest
  | '0' :: 'b' :: rest => based? 2 (fun c => c == '0' || c == '1') rest
  | _ => decimal? (signed cs).1 (signed cs).2

/-- The two sides of the first character that satisfies `p`. -/
def cutAt (p : Char → Bool) (cs : List Char) : List Char × Option (List Char) :=
  match cs.span fun c => !p c with
  | (before, _ :: after) => (before, some after)
  | (before, []) => (before, none)

/-- The digits of a float in front of its point. -/
def wholeDigits? (cs : List Char) : Option (List Char) :=
  if hasLeadingZero cs then none else digitGroups? isAsciiDigit cs

/-- The exponent of a float, after its mark. -/
def exponent? (cs : List Char) : Option Int :=
  (digitGroups? isAsciiDigit (signed cs).2).map fun digits =>
    withSign (signed cs).1 (decimalValue digits)

/-- The fraction and the exponent of a float, where they are written. At least one is. -/
def floatParts? (cs : List Char) : Option (List Char × List Char × Int) :=
  let (mantissa, exponent) := cutAt (fun c => c == 'e' || c == 'E') cs
  let (whole, fraction) := cutAt (· == '.') mantissa
  if fraction.isNone && exponent.isNone then none
  else do
    let whole ← wholeDigits? whole
    let fraction ← match fraction with
      | some f => digitGroups? isAsciiDigit f
      | none => some []
    let exponent ← match exponent with
      | some e => exponent? e
      | none => some 0
    return (whole, fraction, exponent)

/-- A float. One beyond the range of doubles has no value. -/
def float? (cs : List Char) : Option Value :=
  let (negative, rest) := signed cs
  if rest == ['i', 'n', 'f'] then some (.float (Double.infinity negative))
  else if rest == ['n', 'a', 'n'] then some (.float Double.nan)
  else do
    let (whole, fraction, exponent) ← floatParts? rest
    return match Double.ofDecimal? negative (decimalValue (whole ++ fraction))
        (exponent - fraction.length) with
      | some x => .float x
      | none => .badNumber

/-- A number. -/
def number? (cs : List Char) : Option Value := integer? cs <|> float? cs

end Schemata.Document.Toml
