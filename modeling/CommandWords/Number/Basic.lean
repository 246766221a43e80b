/-
This file defines the numbers of the library and their exact arithmetic. A finite number is a
signed multiple of the smallest unit, and every operation rounds once, to 53 significant bits.
-/

import CommandWords.Number.Rounding

namespace CommandWords

/-- The magnitude of a finite number counts units of two to the power of minus 1074. -/
inductive Number where
  | nan
  | infinite (negative : Bool)
  | finite (negative : Bool) (magnitude : Nat)
deriving DecidableEq, Repr, Inhabited

namespace Number

/-- The unit is two to the power of minus this many bits. -/
def unitBits : Nat := 1074

/-- The units in the number one. -/
def unit : Nat := twoPower unitBits

theorem unit_pos : 0 < unit := twoPower_pos unitBits

/-- A finite number is less than two to the power of this. -/
def exponentBound : Nat := 1024

/-- From this many units on, a rounded magnitude becomes infinite. -/
def overflow : Nat := twoPower (exponentBound + unitBits)

/-- The number nearest to a quotient of units. -/
def ofUnits (negative : Bool) (numerator denominator : Nat) : Number :=
  let magnitude := Rounding.round numerator denominator
  if magnitude < overflow then finite negative magnitude else infinite negative

def ofNat (value : Nat) : Number := ofUnits false (value * unit) 1

instance (value : Nat) : OfNat Number value := ⟨ofNat value⟩

/-- The number of a natural number that needs no rounding. -/
def natural (value : Nat) : Number := finite false (value * unit)

theorem overflow_eq : overflow = twoPower exponentBound * unit := by
  rw [overflow, unit, twoPower_add]

theorem below_overflow {value : Nat} (small : value < twoPower 53) : value * unit < overflow := by
  have bound : 53 ≤ exponentBound := by decide
  have large : twoPower 53 ≤ twoPower exponentBound := twoPower_le bound
  rw [overflow_eq]
  exact Nat.mul_lt_mul_of_pos_right (Nat.lt_of_lt_of_le small large) unit_pos

theorem ofUnits_exact {value : Nat} (small : value < twoPower 53) {denominator : Nat}
    (positive : 0 < denominator) :
    ofUnits false (value * unit * denominator) denominator = natural value := by
  have rounded : Rounding.round (value * unit * denominator) denominator = value * unit := by
    rw [unit]
    exact Rounding.round_exact small positive
  simp [ofUnits, rounded, below_overflow small, natural]

theorem ofNat_eq_natural {value : Nat} (small : value < twoPower 53) :
    ofNat value = natural value := by
  have exact := ofUnits_exact small Nat.one_pos
  rwa [Nat.mul_one] at exact

/-- Finite numbers are ordered by their signed units, so both zeros are one point. -/
def signedUnits (negative : Bool) (magnitude : Nat) : Int :=
  if negative then -(magnitude : Int) else magnitude

/-- Nothing compares with the undefined number. -/
def compare? : Number → Number → Option Ordering
  | nan, _ => none
  | _, nan => none
  | infinite first, infinite second => some (compare second.toNat first.toNat)
  | infinite negative, finite _ _ => some (if negative then .lt else .gt)
  | finite _ _, infinite negative => some (if negative then .gt else .lt)
  | finite firstSign first, finite secondSign second =>
      some (compare (signedUnits firstSign first) (signedUnits secondSign second))

def equals (first second : Number) : Bool := compare? first second == some .eq

def lessThan (first second : Number) : Bool := compare? first second == some .lt

def atMost (first second : Number) : Bool := lessThan first second || equals first second

def negate : Number → Number
  | nan => nan
  | infinite negative => infinite (!negative)
  | finite negative magnitude => finite (!negative) magnitude

/-- Opposite numbers add up to the positive zero. -/
def add : Number → Number → Number
  | nan, _ => nan
  | _, nan => nan
  | infinite first, infinite second => if first = second then infinite first else nan
  | infinite negative, finite _ _ => infinite negative
  | finite _ _, infinite negative => infinite negative
  | finite firstSign first, finite secondSign second =>
      if firstSign = secondSign then ofUnits firstSign (first + second) 1
      else if second < first then ofUnits firstSign (first - second) 1
      else if first < second then ofUnits secondSign (second - first) 1
      else finite false 0

def mul : Number → Number → Number
  | nan, _ => nan
  | _, nan => nan
  | infinite first, infinite second => infinite (first != second)
  | infinite first, finite second magnitude =>
      if magnitude = 0 then nan else infinite (first != second)
  | finite first magnitude, infinite second =>
      if magnitude = 0 then nan else infinite (first != second)
  | finite firstSign first, finite secondSign second =>
      ofUnits (firstSign != secondSign) (first * second) unit

def isInteger : Number → Bool
  | finite _ magnitude => magnitude % unit == 0
  | _ => false

/-- The natural number that a number equals. Both zeros equal zero. -/
def toNat? : Number → Option Nat
  | finite negative magnitude =>
      if magnitude % unit = 0 ∧ (negative = false ∨ magnitude = 0) then some (magnitude / unit)
      else none
  | _ => none

@[simp] theorem toNat?_natural (value : Nat) : (natural value).toNat? = some value := by
  simp [toNat?, natural, unit_pos]

/-- A number that equals a positive natural number is that natural number. -/
theorem eq_natural_of_toNat? {number : Number} {value : Nat} (positive : 0 < value)
    (equal : number.toNat? = some value) : number = natural value := by
  cases number with
  | nan => simp [toNat?] at equal
  | infinite negative => simp [toNat?] at equal
  | finite negative magnitude =>
      simp only [toNat?, Option.ite_none_right_eq_some, Option.some.injEq] at equal
      obtain ⟨⟨whole, sign⟩, quotient⟩ := equal
      have product : value * unit = magnitude := by
        rw [← quotient]
        exact Nat.div_mul_cancel (Nat.dvd_of_mod_eq_zero whole)
      cases sign with
      | inl unsigned => rw [unsigned, natural, product]
      | inr zero =>
          rw [zero, Nat.zero_div] at quotient
          omega

theorem mul_natural {first second : Nat} (small : first * second < twoPower 53) :
    (natural first).mul (natural second) = natural (first * second) := by
  have product : first * unit * (second * unit) = first * second * unit * unit := by
    rw [Nat.mul_assoc first, Nat.mul_left_comm unit, ← Nat.mul_assoc, ← Nat.mul_assoc]
  simp only [natural, mul, bne_self_eq_false, product]
  exact ofUnits_exact small unit_pos

/-- The place in a list of this length that a count reaches. A fraction is cut off, a negative
count goes back from the end, and no place lies outside the list. -/
def position (count : Number) (length : Nat) : Nat :=
  match count with
  | nan => 0
  | infinite negative => if negative then 0 else length
  | finite negative magnitude =>
      let whole := magnitude / unit
      if negative ∧ whole ≠ 0 then length - whole else min whole length

end Number

end CommandWords
