/-
This file shows that natural numbers compare and cut lists without rounding.
-/

import CommandWords.Proofs.Number.Total

namespace CommandWords.Number

theorem natural_injective {first second : Nat} (same : natural first = natural second) :
    first = second := by
  have named := congrArg toNat? same
  rwa [toNat?_natural, toNat?_natural, Option.some.injEq] at named

theorem lessThan_natural (first second : Nat) :
    (natural first).lessThan (natural second) = decide (first < second) := by
  have scaled : first * unit < second * unit ↔ first < second :=
    Nat.mul_lt_mul_right unit_pos
  have units : ((first * unit : Nat) : Int) < ((second * unit : Nat) : Int) ↔ first < second :=
    Int.ofNat_lt.trans scaled
  simp only [lessThan, natural, compare?, signedUnits, Bool.false_eq_true, if_false]
  rw [Bool.eq_iff_iff, beq_iff_eq, Option.some.injEq, Int.compare_eq_lt, decide_eq_true_eq]
  exact units

theorem natural_zero : natural 0 = 0 := by
  rw [zero_eq_ofNat, ofNat_eq_natural (twoPower_pos 53)]

/-- A natural number is not negative. -/
theorem lessThan_zero_natural (count : Nat) : (natural count).lessThan 0 = false := by
  rw [← natural_zero, lessThan_natural]
  exact decide_eq_false (Nat.not_lt_zero count)

theorem atMost_zero_natural {count : Nat} (positive : 0 < count) :
    (natural count).atMost 0 = false := by
  have apart : (natural count).equals (natural 0) = false := by
    have scaled : ((count * unit : Nat) : Int) ≠ ((0 * unit : Nat) : Int) := by
      have some_units : 0 < count * unit := Nat.mul_pos positive unit_pos
      omega
    simp only [equals, natural, compare?, signedUnits, Bool.false_eq_true, if_false]
    rw [beq_eq_false_iff_ne, Ne, Option.some.injEq, Int.compare_eq_eq]
    exact scaled
  rw [atMost, lessThan_zero_natural, ← natural_zero, apart, Bool.or_false]

theorem position_natural (count length : Nat) :
    (natural count).position length = min count length := by
  simp only [position, natural, Bool.false_eq_true, false_and, if_false]
  rw [Nat.mul_div_cancel count unit_pos]

/-- A negative count goes back from the end. -/
theorem position_negate_natural {count : Nat} (positive : 0 < count) (length : Nat) :
    (natural count).negate.position length = length - count := by
  have whole : count * unit / unit = count := Nat.mul_div_cancel count unit_pos
  simp only [position, natural, negate, whole, Bool.not_false, true_and]
  exact if_pos (Nat.pos_iff_ne_zero.mp positive)

end CommandWords.Number
