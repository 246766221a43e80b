/-
This file shows that the order of strings by their units is total and tells all strings apart, so
different strings can be sorted strictly.
-/

import CommandWords.Text.Units
import Mathlib.Logic.Basic

namespace CommandWords.Text

/-- A string comes before another one if its units do. -/
def Before (first second : String) : Prop :=
  List.Lex (· < ·) (unitsOf first) (unitsOf second)

theorem atMost_iff {first second : String} :
    atMost first second = true ↔ ¬ Before second first := by
  rw [atMost, Bool.not_eq_true', ← Bool.not_eq_true, List.lex_eq_true_iff_lex]
  simp only [Nat.blt_eq, Before]

/-- No unit of a surrogate is a character of its own, so units are read in one way only. -/
theorem units_append {first second : Char} {rest others : List Nat}
    (same : units first ++ rest = units second ++ others) : first = second ∧ rest = others := by
  have valid (character : Char) : character.toNat < 0xd800 ∨
      0xdfff < character.toNat ∧ character.toNat < 0x110000 := character.valid
  have one := valid first
  have other := valid second
  have codes : first.toNat = second.toNat ∧ rest = others := by
    unfold units at same
    dsimp only at same
    split at same <;> split at same <;>
      simp only [List.cons_append, List.nil_append, List.cons.injEq] at same
    · exact same
    · omega
    · omega
    · exact ⟨by omega, same.2.2⟩
  exact ⟨Char.toNat_inj.mp codes.1, codes.2⟩

theorem unitsOf_injective {first second : String} (same : unitsOf first = unitsOf second) :
    first = second := by
  have read (characters others : List Char)
      (equal : characters.flatMap units = others.flatMap units) : characters = others := by
    have written (character : Char) : units character ≠ [] := by
      unfold units
      dsimp only
      split <;> simp
    induction characters generalizing others with
    | nil =>
        cases others with
        | nil => rfl
        | cons other rest => simp [List.flatMap_cons, written] at equal
    | cons character characters inductionHypothesis =>
        cases others with
        | nil => simp [List.flatMap_cons, written] at equal
        | cons other rest =>
            rw [List.flatMap_cons, List.flatMap_cons] at equal
            obtain ⟨rfl, remaining⟩ := units_append equal
            rw [inductionHypothesis rest remaining]
  exact String.toList_injective (read _ _ same)

theorem Before.trans {first second third : String} (before : Before first second)
    (after : Before second third) : Before first third :=
  List.lex_trans Nat.lt_trans before after

/-- Of two different strings one comes first. -/
theorem before_or_before {first second : String} (different : first ≠ second) :
    Before first second ∨ Before second first := by
  apply Classical.byContradiction
  intro neither
  obtain ⟨not_before, not_after⟩ := not_or.mp neither
  have equal := List.lex_trichotomous (r := (· < · : Nat → Nat → Prop))
    (fun one other => by omega) not_after not_before
  exact different (unitsOf_injective equal)

theorem atMost_total (first second : String) :
    (atMost first second || atMost second first) = true := by
  rw [Bool.or_eq_true, atMost_iff, atMost_iff, ← not_and_or]
  rintro ⟨after, before⟩
  exact List.lex_asymm (fun less => Nat.lt_asymm less) before after

theorem atMost_trans (first second third : String) (before : atMost first second = true)
    (after : atMost second third = true) : atMost first third = true := by
  rw [atMost_iff] at before after ⊢
  intro back
  by_cases same : first = second
  · subst same
    exact after back
  · rcases before_or_before same with less | more
    · exact after (back.trans less)
    · exact before more

/-- Different strings are sorted strictly. -/
theorem pairwise_before_mergeSort {names : List String} (distinct : names.Nodup) :
    (names.mergeSort atMost).Pairwise Before := by
  have sorted := List.pairwise_mergeSort atMost_trans atMost_total names
  have apart : (names.mergeSort atMost).Nodup :=
    (List.mergeSort_perm names atMost).nodup_iff.mpr distinct
  refine (sorted.and apart).imp ?_
  rintro first second ⟨atMost, different⟩
  exact (before_or_before different).resolve_right (atMost_iff.mp atMost)

end CommandWords.Text
