/-
This file reads numbers from decimal digits and a decimal exponent.
-/

import CommandWords.Number.Basic

namespace CommandWords.Number

/-- A decimal exponent beyond this many places decides the number alone. -/
def decimalReach : Nat := 400

/-- The number nearest to a natural number times a power of ten. -/
def ofDecimal (negative : Bool) (digits : Nat) (exponent : Int) : Number :=
  if digits = 0 then finite negative 0
  else if exponent < 0 then
    if (Nat.toDigits 10 digits).length + decimalReach < exponent.natAbs then finite negative 0
    else ofUnits negative (digits * unit) (Nat.pow 10 exponent.natAbs)
  else if decimalReach < exponent.natAbs then infinite negative
  else ofUnits negative (digits * Nat.pow 10 exponent.natAbs * unit) 1

def digitValue (digit : Char) : Nat := digit.toNat - '0'.toNat

/-- The natural number that a list of decimal digits writes. -/
def ofDigits (digits : List Char) : Nat :=
  digits.foldl (fun value digit => 10 * value + digitValue digit) 0

end CommandWords.Number
