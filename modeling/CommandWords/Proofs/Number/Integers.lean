/-
This file shows that integers of at most 53 bits are written with all their digits, and that the
digits read back.
-/

import CommandWords.Number.Decimal
import CommandWords.Number.Text

namespace CommandWords.Number

theorem magnitudeText_natural {value : Nat} (small : value ≤ twoPower 53) :
    magnitudeText (value * unit) = toString value := by
  have whole : value * unit % unit = 0 := Nat.mul_mod_left value unit
  have quotient : value * unit / unit = value := Nat.mul_div_cancel value unit_pos
  rw [magnitudeText, whole, quotient, if_pos ⟨rfl, small⟩]

theorem text_natural {value : Nat} (small : value ≤ twoPower 53) :
    (natural value).text = toString value := by
  rw [natural, text, magnitudeText_natural small]
  exact if_neg fun signed => Bool.false_ne_true signed.1

/-- The number of an integer that needs no rounding. Zero has no sign. -/
def integer : Int → Number
  | .ofNat value => natural value
  | .negSucc value => (natural (value + 1)).negate

/-- An integer is written with its sign and its decimal digits. -/
theorem text_integer {value : Int} (small : value.natAbs ≤ twoPower 53) :
    (integer value).text = toString value := by
  cases value with
  | ofNat value => exact text_natural small
  | negSucc value =>
      have small : value + 1 ≤ twoPower 53 := small
      have positive : 0 < (value + 1) * unit := Nat.mul_pos (Nat.succ_pos value) unit_pos
      rw [integer, natural, negate, text, magnitudeText_natural small]
      exact if_pos ⟨rfl, Nat.pos_iff_ne_zero.mp positive⟩

/-- The digits of a natural number write it. -/
theorem ofDigits_toDigits (value : Nat) : ofDigits (Nat.toDigits 10 value) = value :=
  Nat.ofDigitChars_toDigits (by decide) (by decide)

/-- A natural number without a decimal exponent needs no rounding. -/
theorem ofDecimal_natural {value : Nat} (small : value < twoPower 53) (negative : Bool) :
    ofDecimal negative value 0 = finite negative (value * unit) := by
  by_cases zero : value = 0
  · rw [zero, ofDecimal, if_pos rfl, Nat.zero_mul]
  · have rounded : Rounding.round (value * unit) 1 = value * unit := by
      have kept : Rounding.round (value * unit * 1) 1 = value * unit :=
        Rounding.round_exact small Nat.one_pos
      rwa [Nat.mul_one] at kept
    have reach : ¬ decimalReach < (0 : Int).natAbs := Nat.not_lt_zero _
    rw [ofDecimal, if_neg zero, if_neg (Int.lt_irrefl 0), if_neg reach, Int.natAbs_zero]
    rw [Nat.pow_eq, Nat.pow_zero, Nat.mul_one, ofUnits, rounded, if_pos (below_overflow small)]

end CommandWords.Number
