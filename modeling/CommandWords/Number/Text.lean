/-
This file writes numbers with the fewest decimal digits that read back. The digits stand in
positional form unless the decimal point is far from them.
-/

import CommandWords.Number.Basic

namespace CommandWords.Number

/-- The written number is the digits behind a decimal point, times ten to the given power. -/
structure Decimal where
  digits : List Char
  point : Int
deriving DecidableEq, Repr

/-- The numbers strictly between these bounds round to one magnitude. A bound itself does so when
it is included. Bounds count quarters of a unit. -/
structure RoundingInterval where
  lower : Nat
  upper : Nat
  included : Bool

/-- Below a power of two the neighbouring number is only half as far away. -/
def roundingInterval (magnitude : Nat) : RoundingInterval :=
  let scale := twoPower (Rounding.excessBits magnitude)
  let significand := magnitude / scale
  let below := if 1 < scale ∧ significand = twoPower 52 then scale else 2 * scale
  { lower := 4 * magnitude - below
    upper := 4 * magnitude + 2 * scale
    included := significand % 2 = 0 }

/-- Whether a quotient of quarter units lies in the interval. -/
def RoundingInterval.contains (interval : RoundingInterval) (numerator denominator : Nat) : Bool :=
  let low := interval.lower * denominator
  let high := interval.upper * denominator
  if interval.included then low ≤ numerator && numerator ≤ high
  else low < numerator && numerator < high

def digitCount (value : Nat) : Nat := (Nat.toDigits 10 value).length

/-- The power of ten just above a magnitude. -/
def decimalPoint (magnitude : Nat) : Int :=
  (digitCount (magnitude * Nat.pow 10 400 / unit) : Int) - 400

/-- A power of ten as a quotient. -/
def tenPower (exponent : Int) : Nat × Nat :=
  if exponent < 0 then (1, Nat.pow 10 exponent.natAbs) else (Nat.pow 10 exponent.natAbs, 1)

/-- The multiple of a power of ten that is nearest to a magnitude and rounds to it. -/
def nearestMultiple? (magnitude : Nat) (exponent : Int) : Option Nat :=
  let (tenNumerator, tenDenominator) := tenPower exponent
  let interval := roundingInterval magnitude
  let holds (multiple : Nat) : Bool :=
    interval.contains (multiple * tenNumerator * unit * 4) tenDenominator
  let numerator := magnitude * tenDenominator
  let denominator := unit * tenNumerator
  let closest := Rounding.nearest numerator denominator
  let floor := numerator / denominator
  let other := if closest = floor then floor + 1 else floor
  if holds closest then some closest
  else if holds other then some other
  else none

/-- The shortest decimal of a positive magnitude, tried with this many digits and more. -/
def shortestFrom (magnitude : Nat) (point : Int) : Nat → Nat → Decimal
  | 0, _ => ⟨Nat.toDigits 10 magnitude, point⟩
  | attempts + 1, count =>
      match nearestMultiple? magnitude (point - count) with
      | some multiple =>
          let digits := Nat.toDigits 10 multiple
          ⟨(digits.reverse.dropWhile (· = '0')).reverse, point - count + digits.length⟩
      | none => shortestFrom magnitude point attempts (count + 1)

/-- Seventeen digits tell all magnitudes apart. -/
def shortest (magnitude : Nat) : Decimal :=
  shortestFrom magnitude (decimalPoint magnitude) 17 1

/-- The decimal point may stand up to 21 places behind the first digit and six zeros before it. -/
def Decimal.layout (decimal : Decimal) : List Char :=
  let count : Int := decimal.digits.length
  let place := decimal.point.toNat
  if count ≤ decimal.point ∧ decimal.point ≤ 21 then
    decimal.digits ++ List.replicate (decimal.point - count).toNat '0'
  else if 0 < decimal.point ∧ decimal.point ≤ 21 then
    decimal.digits.take place ++ '.' :: decimal.digits.drop place
  else if -6 < decimal.point ∧ decimal.point ≤ 0 then
    '0' :: '.' :: List.replicate decimal.point.natAbs '0' ++ decimal.digits
  else
    let exponent := decimal.point - 1
    let fraction := decimal.digits.drop 1
    decimal.digits.take 1 ++ (if fraction = [] then [] else '.' :: fraction) ++
      'e' :: (if exponent < 0 then '-' else '+') :: Nat.toDigits 10 exponent.natAbs

/-- Integers of at most 53 bits are written in full. -/
def magnitudeText (magnitude : Nat) : String :=
  if magnitude % unit = 0 ∧ magnitude / unit ≤ twoPower 53 then toString (magnitude / unit)
  else String.ofList (shortest magnitude).layout

/-- Both zeros are written alike. -/
def text : Number → String
  | nan => "NaN"
  | infinite negative => if negative then "-Infinity" else "Infinity"
  | finite negative magnitude =>
      let unsigned := magnitudeText magnitude
      if negative ∧ magnitude ≠ 0 then "-" ++ unsigned else unsigned

end CommandWords.Number
