/-
This file shows that large numbers stay large: rounding takes no number and no product below two to
the power of 53.
-/

import CommandWords.Table.Basic

namespace CommandWords

/-- Rounding keeps the highest bit, or carries into a higher one. -/
theorem Rounding.round_ge {numerator denominator bits : Nat} (positive : 0 < denominator)
    (enough : 52 ≤ bits) (large : twoPower bits * denominator ≤ numerator) :
    twoPower bits ≤ round numerator denominator := by
  have quotientLarge : twoPower bits ≤ numerator / denominator :=
    (Nat.le_div_iff_mul_le positive).mpr large
  have nonzero : numerator / denominator ≠ 0 := by
    have above := twoPower_pos bits
    omega
  have highest : bits ≤ Nat.log2 (numerator / denominator) :=
    (Nat.le_log2 nonzero).mpr quotientLarge
  obtain ⟨excess, counted⟩ : ∃ excess, Nat.log2 (numerator / denominator) = 52 + excess :=
    Nat.exists_eq_add_of_le (Nat.le_trans enough highest)
  have scale : excessBits (numerator / denominator) = excess := by
    rw [excessBits, counted, Nat.add_sub_cancel_left]
  have significant : twoPower 52 * (denominator * twoPower excess) ≤ numerator := by
    calc twoPower 52 * (denominator * twoPower excess)
      _ = twoPower (52 + excess) * denominator := by
        rw [twoPower_add, Nat.mul_comm denominator, Nat.mul_assoc]
      _ ≤ numerator / denominator * denominator := by
        rw [← counted]
        exact Nat.mul_le_mul_right _ (Nat.log2_self_le nonzero)
      _ ≤ numerator := Nat.div_mul_le_self _ _
  have scaled : 0 < denominator * twoPower excess := Nat.mul_pos positive (twoPower_pos excess)
  calc twoPower bits
    _ ≤ twoPower (52 + excess) := twoPower_le (counted ▸ highest)
    _ = twoPower 52 * twoPower excess := twoPower_add 52 excess
    _ ≤ round numerator denominator := by
      rw [round, scale]
      exact Nat.mul_le_mul_right _ (nearest_ge scaled significant)

namespace Number

/-- A positive number that natural numbers below it reach without rounding. -/
def Vast (number : Number) : Prop :=
  number = infinite false ∨
    ∃ magnitude, number = finite false magnitude ∧ twoPower 53 * unit ≤ magnitude

theorem vast_ofUnits {numerator denominator : Nat} (positive : 0 < denominator)
    (large : twoPower 53 * unit * denominator ≤ numerator) :
    (ofUnits false numerator denominator).Vast := by
  have bits : twoPower 53 * unit = twoPower (53 + unitBits) := by rw [unit, ← twoPower_add]
  have enough : 52 ≤ 53 + unitBits := by omega
  unfold ofUnits
  dsimp only
  split
  · refine .inr ⟨_, rfl, ?_⟩
    rw [bits] at large ⊢
    exact Rounding.round_ge positive enough large
  · exact .inl rfl

theorem vast_ofNat {value : Nat} (large : twoPower 53 ≤ value) : (ofNat value).Vast := by
  apply vast_ofUnits Nat.one_pos
  rw [Nat.mul_one]
  exact Nat.mul_le_mul_right unit large

theorem vast_mul_natural {first second : Nat} (large : twoPower 53 ≤ first * second) :
    ((natural first).mul (natural second)).Vast := by
  have product : first * unit * (second * unit) = first * second * unit * unit := by
    rw [Nat.mul_assoc first, Nat.mul_left_comm unit, ← Nat.mul_assoc, ← Nat.mul_assoc]
  have units : twoPower 53 * unit ≤ first * second * unit := Nat.mul_le_mul_right unit large
  simp only [natural, mul, bne_self_eq_false, product]
  apply vast_ofUnits unit_pos
  exact Nat.mul_le_mul_right unit units

theorem Vast.mul_natural {number : Number} (vast : number.Vast) {factor : Nat}
    (positive : 0 < factor) : (number.mul (natural factor)).Vast := by
  have scaled : unit ≤ factor * unit := Nat.le_mul_of_pos_left unit positive
  rcases vast with rfl | ⟨magnitude, rfl, large⟩
  · have nonzero : factor * unit ≠ 0 := by
      have above := unit_pos
      omega
    refine .inl ?_
    rw [natural, mul, if_neg nonzero, bne_self_eq_false]
  · simp only [natural, mul, bne_self_eq_false]
    exact vast_ofUnits unit_pos (Nat.mul_le_mul large scaled)

/-- A product of natural numbers is exact as long as it is small. -/
theorem ofNat_mul_natural (value : Nat) {factor : Nat} (positive : 0 < factor) :
    (ofNat value).mul (natural factor) = natural (value * factor) ∨
      twoPower 53 ≤ value * factor ∧ ((ofNat value).mul (natural factor)).Vast := by
  by_cases small : value * factor < twoPower 53
  · have below : value < twoPower 53 :=
      Nat.lt_of_le_of_lt (Nat.le_mul_of_pos_right value positive) small
    rw [ofNat_eq_natural below]
    exact .inl (Number.mul_natural small)
  · have large := Nat.le_of_not_lt small
    refine .inr ⟨large, ?_⟩
    by_cases below : value < twoPower 53
    · rw [ofNat_eq_natural below]
      exact vast_mul_natural large
    · exact (vast_ofNat (Nat.le_of_not_lt below)).mul_natural positive

end Number

namespace Table

/-- No slot of a table has such a number. -/
theorem position?_of_vast {place : Number} (vast : place.Vast) : position? place = none := by
  have limit : bound < twoPower 53 := by decide
  have outside : ∀ position, place.toNat? = some position → ¬ position + 1 < bound := by
    rintro position named inside
    rcases vast with rfl | ⟨magnitude, rfl, large⟩
    · cases named
    · simp only [Number.toNat?, Option.ite_none_right_eq_some, Option.some.injEq] at named
      have reached : twoPower 53 ≤ magnitude / Number.unit :=
        (Nat.le_div_iff_mul_le Number.unit_pos).mpr large
      omega
  unfold position?
  cases named : place.toNat? with
  | none => rfl
  | some position =>
      rw [Option.filter_some, if_neg]
      exact fun inside => outside position named (of_decide_eq_true inside)

/-- A product names the slot that it stands for, unless no slot is that far away. -/
theorem position?_product (index : Nat) {distance : Nat} (positive : 0 < distance) :
    position? ((Number.ofNat index).mul (.natural distance)) =
      if index * distance + 1 < bound then some (index * distance) else none := by
  have limit : bound < twoPower 53 := by decide
  rcases Number.ofNat_mul_natural index positive with exact | ⟨large, vast⟩
  · rw [exact]
    split
    next small => exact position?_natural small
    next far => simp [position?, Nat.le_of_not_lt far]
  · rw [position?_of_vast vast, if_neg (by omega)]

end Table

end CommandWords
