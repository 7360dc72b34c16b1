import Schemata.Decimal.Double

/-!
# Shortest decimals

The decimal of fewest digits that reads back as a given double. A double stands for all the reals
that are nearer to it than to its neighbours, with the bounds of that interval included when its
significand is even. For one digit, two, and so on, the two decimals on either side of the double
are tested against the interval; the first that lie within decide, and of two the nearer is taken.

## Main definitions

* `Interval`: the reals that read as one double, over a common denominator.
* `Double.shortest`: digits and exponent of the shortest decimal.
-/

namespace Schemata.Decimal

/-- A decimal: its digits, and the power of ten that the last digit counts. -/
structure Digits where
  digits : List Char
  exponent : Int
  deriving DecidableEq, Repr

/-- The value of a double, and the reals around it that read back as it. All are numerators over
one denominator. -/
structure Interval where
  low : Nat
  value : Nat
  high : Nat
  den : Nat
  /-- Whether the bounds belong to it. -/
  closed : Bool
  deriving Repr

/-- The interval of a double. Below a power of two the neighbour is half as far. -/
def Double.interval (x : Double) : Interval :=
  let m := x.significand
  let below := if x.fraction = 0 && x.field > 1 then 1 else 2
  let up := Nat.pow 2 (x.scale - 2).toNat
  { low := (4 * m - below) * up
    value := 4 * m * up
    high := (4 * m + 2) * up
    den := Nat.pow 2 (2 - x.scale).toNat
    closed := m % 2 == 0 }

/-- Whether a ratio lies in the interval. -/
def Interval.holds (i : Interval) (num den : Nat) : Bool :=
  if i.closed then i.low * den ≤ num * i.den && num * i.den ≤ i.high * den
  else i.low * den < num * i.den && num * i.den < i.high * den

/-- The largest `e` with `10 ^ e` at most the value. Every positive double is above `10 ^ -400`. -/
def Interval.decimalExponent (i : Interval) : Int :=
  (digitCount (i.value * Nat.pow 10 400 / i.den) : Int) - 401

/-- The multiple of `10 ^ exponent` that reads back: of the two around the value the nearer one in
the interval. -/
def Interval.onGrid? (i : Interval) (exponent : Int) : Option Nat :=
  let up := Nat.pow 10 exponent.toNat
  let down := Nat.pow 10 (-exponent).toNat
  let d := i.value * down / (i.den * up)
  let floorHolds := i.holds (d * up) down
  let ceilHolds := i.holds ((d + 1) * up) down
  if floorHolds && ceilHolds then
    let toFloor := i.value * down - d * (i.den * up)
    let toCeil := (d + 1) * (i.den * up) - i.value * down
    if toFloor < toCeil || (toFloor == toCeil && d % 2 == 0) then some d else some (d + 1)
  else if floorHolds then some d
  else if ceilHolds then some (d + 1)
  else none

/-- A natural number times a power of ten as digits, without zeros at the end. -/
def Digits.ofNat (n : Nat) (exponent : Int) : Digits :=
  let all := (Nat.toDigits 10 n).reverse
  let kept := all.dropWhile (· == '0')
  ⟨kept.reverse, exponent + (all.length - kept.length : Nat)⟩

/-- The most digits that a double needs. -/
def maxDigits : Nat := 17

/-- The shortest decimal that reads back as a finite positive double. -/
def Double.shortest (x : Double) : Digits :=
  let i := x.interval
  let top := i.decimalExponent
  let found := (List.range maxDigits).findSome? fun (n : Nat) =>
    let exponent := top - (n : Int)
    (i.onGrid? exponent).map fun d => Digits.ofNat d exponent
  found.getD ⟨['0'], 0⟩

end Schemata.Decimal
