/-!
# Doubles

Binary floating-point numbers of sixty-four bits, given by their bits. Reading a decimal is exact:
the nearest double is found with natural numbers alone, a half going to the even neighbour.

## Main definitions

* `Double`: a sign, an exponent field and a fraction, packed into a word.
* `nearest`: the bits of the double nearest to a ratio.
* `Double.ofDecimal?`: the double nearest to a decimal, unless it is out of range.
-/

namespace Schemata.Decimal

/-- A binary floating-point number of sixty-four bits. -/
structure Double where
  bits : UInt64
  deriving DecidableEq, Repr

/-- The bits of infinity, above which no finite double lies. -/
def infinityBits : Nat := 0x7FF0000000000000

/-- A double with a sign and the bits of its magnitude. -/
def Double.signed (negative : Bool) (magnitude : Nat) : Double :=
  ⟨((if negative then Nat.pow 2 63 else 0) + magnitude).toUInt64⟩

/-- Infinity of either sign. -/
def Double.infinity (negative : Bool) : Double := .signed negative infinityBits

/-- Not a number. -/
def Double.nan : Double := .signed false 0x7FF8000000000000

/-- A quotient to the nearest natural number, a half to the even one. -/
def roundedQuotient (num den : Nat) : Nat :=
  let whole := num / den
  let rest := 2 * (num % den)
  if rest < den || (rest == den && whole % 2 == 0) then whole else whole + 1

/-- The largest `e` with `2 ^ e ≤ num / den`. -/
def binaryExponent (num den : Nat) : Int :=
  let l := num.log2
  let k := den.log2
  if den * Nat.pow 2 l ≤ num * Nat.pow 2 k then (l : Int) - k else (l : Int) - k - 1

/-- The magnitude bits of the double nearest to a positive ratio. A double is a significand of
fifty-three bits and a power of two not below `2 ^ -1074`; counting the powers from there, the bits
of the double are the power times `2 ^ 52` plus the significand. -/
def nearest (num den : Nat) : Nat :=
  let scale := max (binaryExponent num den - 52) (-1074)
  let significand := roundedQuotient (num * Nat.pow 2 (-scale).toNat) (den * Nat.pow 2 scale.toNat)
  (scale + 1074).toNat * Nat.pow 2 52 + significand

/-- The double nearest to an integer. -/
def Double.ofInt (n : Int) : Double :=
  if n = 0 then .signed false 0 else .signed (n < 0) (min (nearest n.natAbs 1) infinityBits)

/-- How many decimal digits a number has. -/
def digitCount (n : Nat) : Nat := (Nat.toDigits 10 n).length

/-- The double nearest to `digits * 10 ^ exponent`. A decimal beyond the range of doubles has none;
one far below the least double is zero. -/
def Double.ofDecimal? (negative : Bool) (digits : Nat) (exponent : Int) : Option Double :=
  if digits = 0 then some (.signed negative 0)
  else
    let size := exponent + digitCount digits
    if size > 400 then none
    else if size < -400 then some (.signed negative 0)
    else
      let bits := nearest (digits * Nat.pow 10 exponent.toNat) (Nat.pow 10 (-exponent).toNat)
      if bits < infinityBits then some (.signed negative bits) else none

/-- Whether the sign is set. -/
def Double.isNegative (x : Double) : Bool := x.bits.toNat / Nat.pow 2 63 == 1

/-- The bits below the sign. -/
def Double.magnitude (x : Double) : Nat := x.bits.toNat % Nat.pow 2 63

/-- Whether a double is a number with a finite value. -/
def Double.isFinite (x : Double) : Bool := x.magnitude < infinityBits

/-- Whether a double is not a number. -/
def Double.isNaN (x : Double) : Bool := x.magnitude > infinityBits

/-- The exponent field. -/
def Double.field (x : Double) : Nat := x.magnitude / Nat.pow 2 52

/-- The fraction field. -/
def Double.fraction (x : Double) : Nat := x.magnitude % Nat.pow 2 52

/-- The integer `m` of a finite double `m * 2 ^ q`. -/
def Double.significand (x : Double) : Nat :=
  if x.field = 0 then x.fraction else Nat.pow 2 52 + x.fraction

/-- The exponent `q` of a finite double `m * 2 ^ q`. -/
def Double.scale (x : Double) : Int := (max x.field 1 : Nat) - 1075

end Schemata.Decimal
