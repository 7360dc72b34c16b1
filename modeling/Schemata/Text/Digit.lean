/-!
# Digits

The values of digits and of numbers written in digits, the first of which weighs most.

## Main definitions

* `hexValue?`, `hexDigit`: one digit, up to base sixteen.
* `ofDigits`, `decimalValue`: the value of several.
-/

namespace Schemata.Text

/-- The value of a hexadecimal digit. -/
def hexValue? (c : Char) : Option Nat :=
  if '0' ≤ c && c ≤ '9' then some (c.toNat - 48)
  else if 'a' ≤ c && c ≤ 'f' then some (c.toNat - 87)
  else if 'A' ≤ c && c ≤ 'F' then some (c.toNat - 55)
  else none

/-- A hexadecimal digit in lower case. -/
def hexDigit (n : Nat) : Char :=
  if n < 10 then Char.ofNat (n + 48) else Char.ofNat (n + 87)

/-- The value of digits in a base, given their values. -/
def ofDigits (base : Nat) (digits : List Nat) : Nat := digits.foldl (fun n d => base * n + d) 0

/-- The value of decimal digits. -/
def decimalValue (digits : List Char) : Nat := ofDigits 10 (digits.map fun c => c.toNat - 48)

end Schemata.Text
