/-
This file rounds quotients of natural numbers to 53 significant bits.
-/

namespace CommandWords

def twoPower (exponent : Nat) : Nat := Nat.pow 2 exponent

theorem twoPower_pos (exponent : Nat) : 0 < twoPower exponent := Nat.two_pow_pos exponent

theorem twoPower_add (first second : Nat) :
    twoPower (first + second) = twoPower first * twoPower second :=
  Nat.pow_add 2 first second

theorem twoPower_le {first second : Nat} (atMost : first ≤ second) :
    twoPower first ≤ twoPower second :=
  Nat.pow_le_pow_right Nat.two_pos atMost

namespace Rounding

/-- The nearest natural number to a quotient. A half goes to the even neighbour. -/
def nearest (numerator denominator : Nat) : Nat :=
  let quotient := numerator / denominator
  let remainder := numerator % denominator
  if 2 * remainder < denominator ∨ (2 * remainder = denominator ∧ quotient % 2 = 0) then
    quotient
  else
    quotient + 1

/-- The low bits of a natural number that do not fit in 53 significant bits. -/
def excessBits (value : Nat) : Nat := Nat.log2 value - 52

/-- The nearest natural number to a quotient among those with 53 significant bits. -/
def round (numerator denominator : Nat) : Nat :=
  let scale := twoPower (excessBits (numerator / denominator))
  nearest numerator (denominator * scale) * scale

theorem nearest_mul (value : Nat) {denominator : Nat} (positive : 0 < denominator) :
    nearest (value * denominator) denominator = value := by
  simp [nearest, positive]

theorem nearest_ge {bound numerator denominator : Nat} (positive : 0 < denominator)
    (large : bound * denominator ≤ numerator) : bound ≤ nearest numerator denominator := by
  have quotientLarge : bound ≤ numerator / denominator :=
    (Nat.le_div_iff_mul_le positive).2 large
  simp only [nearest]
  split <;> omega

theorem excessBits_le {value bits : Nat} (small : value < twoPower (53 + bits)) :
    excessBits value ≤ bits := by
  by_cases zero : value = 0
  · subst zero
    simp [excessBits]
  · have := (Nat.log2_lt zero).2 small
    simp only [excessBits]
    omega

/-- A multiple of a power of two with at most 53 significant bits is kept. -/
theorem round_exact {value bits : Nat} (small : value < twoPower 53) {denominator : Nat}
    (positive : 0 < denominator) :
    round (value * twoPower bits * denominator) denominator = value * twoPower bits := by
  have bound : value * twoPower bits < twoPower (53 + bits) := by
    rw [twoPower_add]
    exact Nat.mul_lt_mul_of_pos_right small (twoPower_pos bits)
  obtain ⟨rest, split⟩ := Nat.exists_eq_add_of_le (excessBits_le bound)
  have scaled : value * twoPower bits =
      value * twoPower rest * twoPower (excessBits (value * twoPower bits)) := by
    rw [Nat.mul_assoc, ← twoPower_add, Nat.add_comm rest, ← split]
  simp only [round, Nat.mul_div_cancel _ positive]
  have product : value * twoPower bits * denominator =
      value * twoPower rest * (denominator * twoPower (excessBits (value * twoPower bits))) := by
    rw [Nat.mul_comm denominator, ← Nat.mul_assoc, ← scaled]
  rw [product, nearest_mul _ (Nat.mul_pos positive (twoPower_pos _)), ← scaled]

theorem nearest_le {bound numerator denominator : Nat}
    (small : numerator < bound * denominator) : nearest numerator denominator ≤ bound := by
  have quotientSmall : numerator / denominator < bound :=
    Nat.div_lt_of_lt_mul (by rwa [Nat.mul_comm])
  simp only [nearest]
  split <;> omega

/-- The bits that are not in excess are at most 53. -/
theorem lt_twoPower_excessBits (value : Nat) : value < twoPower (53 + excessBits value) := by
  by_cases zero : value = 0
  · subst zero
    exact twoPower_pos _
  · apply (Nat.log2_lt zero).1
    simp only [excessBits]
    omega

/-- A rounded number needs no further rounding. -/
theorem round_round (value : Nat) : round (round value 1) 1 = round value 1 := by
  have rounded : round value 1 =
      nearest value (twoPower (excessBits value)) * twoPower (excessBits value) := by
    simp only [round, Nat.div_one, Nat.one_mul]
  have bound := lt_twoPower_excessBits value
  generalize excessBits value = bits at rounded bound
  rw [twoPower_add] at bound
  have exact : ∀ {significant bits : Nat}, significant < twoPower 53 →
      round (significant * twoPower bits) 1 = significant * twoPower bits := by
    intro significant bits small
    have kept : round (significant * twoPower bits * 1) 1 = _ := round_exact small Nat.one_pos
    rwa [Nat.mul_one] at kept
  rw [rounded]
  rcases Nat.lt_or_eq_of_le (nearest_le bound) with small | full
  · exact exact small
  · -- Rounding up may need one bit more, but then only this bit is set.
    have single : twoPower 53 * twoPower bits = 1 * twoPower (53 + bits) := by
      rw [Nat.one_mul, twoPower_add]
    rw [full, single]
    exact exact (by decide)

end Rounding

end CommandWords
