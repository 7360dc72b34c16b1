import Schemata.Decimal.Shortest

/-!
# Written doubles

A double is written with the digits of its shortest decimal: positionally while the point stands
not far from them, with an exponent otherwise. A whole number keeps `.0`.
-/

namespace Schemata.Decimal

/-- Digits are written positionally when the point stands at most this far to the right of the
first. -/
def pointRightmost : Int := 16

/-- Digits are written positionally when the point stands less than this far to the left of the
first. -/
def pointLeftmost : Int := -5

/-- Digits with their point and exponent. -/
def Digits.write (d : Digits) : List Char :=
  let point := d.exponent + d.digits.length
  if 0 ≤ d.exponent && point ≤ pointRightmost then
    d.digits ++ List.replicate d.exponent.toNat '0' ++ ['.', '0']
  else if 0 < point && point ≤ pointRightmost then
    d.digits.take point.toNat ++ '.' :: d.digits.drop point.toNat
  else if pointLeftmost < point && point ≤ 0 then
    '0' :: '.' :: List.replicate (-point).toNat '0' ++ d.digits
  else
    let exponent := 'e' :: (toString (point - 1)).toList
    match d.digits with
    | first :: second :: rest => first :: '.' :: second :: rest ++ exponent
    | short => short ++ exponent

/-- The text of a double. -/
def Double.write (x : Double) : String :=
  let sign := if x.isNegative then ['-'] else []
  if x.isNaN then "NaN"
  else if !x.isFinite then String.ofList (sign ++ ['i', 'n', 'f'])
  else if x.magnitude = 0 then String.ofList (sign ++ ['0', '.', '0'])
  else String.ofList (sign ++ x.shortest.write)

end Schemata.Decimal
