/-
This file adds up numbers. Every addition rounds, so a sum is exact as long as it stays small.
-/

import CommandWords.Number.Basic
import Mathlib.Algebra.GroupWithZero.Nat

namespace CommandWords.Number

/-- The sum of numbers, of which the last one is added first. -/
def total (numbers : List Number) : Number := numbers.foldr (fun number sum => sum.add number) 0

theorem zero_eq_ofNat : (0 : Number) = ofNat 0 := rfl

theorem total_nil : total [] = ofNat 0 := by
  rw [total, List.foldr_nil, zero_eq_ofNat]

theorem total_cons (number : Number) (rest : List Number) :
    total (number :: rest) = (total rest).add number := rfl

theorem add_unsigned (first second : Nat) :
    (finite false first).add (finite false second) = ofUnits false (first + second) 1 := by
  simp only [add, if_true]

/-- A number that is not negative and needs no rounding. -/
def Settled (number : Number) : Prop :=
  number = infinite false ∨
    ∃ magnitude, number = finite false magnitude ∧ magnitude < overflow ∧
      Rounding.round magnitude 1 = magnitude

theorem settled_ofUnits (units : Nat) : (ofUnits false units 1).Settled := by
  unfold ofUnits
  dsimp only
  split
  next small => exact .inr ⟨_, rfl, small, Rounding.round_round units⟩
  next => exact .inl rfl

theorem settled_ofNat (value : Nat) : (ofNat value).Settled := settled_ofUnits _

theorem Settled.add {first second : Number} (one : first.Settled) (other : second.Settled) :
    (first.add second).Settled := by
  rcases one with rfl | ⟨units, rfl, _, _⟩
  · rcases other with rfl | ⟨more, rfl, _, _⟩
    · exact .inl rfl
    · exact .inl rfl
  · rcases other with rfl | ⟨more, rfl, _, _⟩
    · exact .inl rfl
    · rw [add_unsigned]
      exact settled_ofUnits _

theorem settled_total {counts : List Nat} : (total (counts.map ofNat)).Settled := by
  induction counts with
  | nil =>
      rw [List.map_nil, total_nil]
      exact settled_ofNat 0
  | cons count rest inductionHypothesis =>
      rw [List.map_cons, total_cons]
      exact inductionHypothesis.add (settled_ofNat count)

theorem ofNat_zero : ofNat 0 = finite false 0 := by
  rw [ofNat_eq_natural (twoPower_pos 53), natural, Nat.zero_mul]

/-- Zero changes no sum. -/
theorem Settled.add_zero {number : Number} (settled : number.Settled) :
    number.add (ofNat 0) = number := by
  rw [ofNat_zero]
  rcases settled with rfl | ⟨units, rfl, small, rounded⟩
  · rfl
  · rw [add_unsigned, Nat.add_zero, ofUnits, rounded]
    exact if_pos small

theorem add_natural {first second : Nat} (small : first + second < twoPower 53) :
    (natural first).add (natural second) = natural (first + second) := by
  have sum : first * unit + second * unit = (first + second) * unit * 1 := by
    rw [Nat.mul_one, Nat.add_mul]
  rw [natural, natural, add_unsigned, sum]
  exact ofUnits_exact small Nat.one_pos

/-- A sum below two to the power of 53 is exact. -/
theorem total_exact {counts : List Nat} (small : counts.sum < twoPower 53) :
    total (counts.map ofNat) = natural counts.sum := by
  induction counts with
  | nil => rw [List.map_nil, total_nil, ofNat_eq_natural (twoPower_pos 53), List.sum_nil]
  | cons count rest inductionHypothesis =>
      rw [List.sum_cons] at small ⊢
      have before : total (rest.map ofNat) = natural rest.sum := inductionHypothesis (by omega)
      have here : ofNat count = natural count := ofNat_eq_natural (by omega)
      rw [List.map_cons, total_cons, before, here, add_natural (by omega), Nat.add_comm]

end CommandWords.Number
