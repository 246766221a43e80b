/-
This file says where the first occurrence of a pattern stands in a text that is made of parts.
-/

import CommandWords.Text.Substitution
import Mathlib.Data.List.Infix

namespace CommandWords.Text

variable {pattern text rest : List Char} {character separator : Char}

theorem splitAtFirst?_of_begins (begins : pattern <+: character :: rest) :
    splitAtFirst? pattern (character :: rest) =
      some ([], (character :: rest).drop pattern.length) := by
  have starts : pattern.isPrefixOf (character :: rest) = true :=
    List.isPrefixOf_iff_prefix.mpr begins
  rw [splitAtFirst?, if_pos starts]

theorem splitAtFirst?_cons (unlike : ¬ pattern <+: character :: rest) :
    splitAtFirst? pattern (character :: rest) =
      (splitAtFirst? pattern rest).map fun parts => (character :: parts.1, parts.2) := by
  rw [splitAtFirst?, if_neg (mt List.isPrefixOf_iff_prefix.mp unlike)]

theorem splitAtFirst?_self (nonempty : pattern ≠ []) (rest : List Char) :
    splitAtFirst? pattern (pattern ++ rest) = some ([], rest) := by
  cases pattern with
  | nil => exact absurd rfl nonempty
  | cons first others =>
      have begins := List.prefix_append (first :: others) rest
      rw [List.cons_append] at begins ⊢
      rw [splitAtFirst?_of_begins begins]
      simp

/-- An occurrence does not begin in a part without the first character of the pattern. -/
theorem splitAtFirst?_append_of_not_mem {first : Char} {others : List Char}
    (opens : pattern = first :: others) (absent : first ∉ text) (rest : List Char) :
    splitAtFirst? pattern (text ++ rest) =
      (splitAtFirst? pattern rest).map fun parts => (text ++ parts.1, parts.2) := by
  induction text with
  | nil => simp
  | cons character text inductionHypothesis =>
      rw [List.mem_cons, not_or] at absent
      have unlike : ¬ pattern <+: character :: (text ++ rest) := by
        rw [opens]
        exact fun begins => absent.1 (List.cons_prefix_cons.mp begins).1
      rw [List.cons_append, splitAtFirst?_cons unlike, inductionHypothesis absent.2, Option.map_map]
      rfl

/-- A separator that stands nowhere behind the first character of the pattern keeps occurrences
from beginning before it and ending behind it. -/
theorem prefix_of_prefix_append (outside : separator ∉ pattern.tail)
    (begins : pattern <+: character :: text ++ separator :: rest) :
    pattern <+: character :: text := by
  rcases Nat.le_total pattern.length (character :: text).length with short | long
  · exact List.prefix_of_prefix_length_le begins (List.prefix_append _ _) short
  · have within := List.prefix_of_prefix_length_le (List.prefix_append _ _) begins long
    obtain ⟨others, rfl⟩ := within
    cases others with
    | nil => simp
    | cons other others =>
        obtain ⟨rfl, _⟩ :=
          List.cons_prefix_cons.mp ((List.prefix_append_right_inj _).mp begins)
        exact absurd (by simp) outside

theorem splitAtFirst?_append_of_missing (missing : ¬ pattern <:+: text)
    (outside : separator ∉ pattern.tail) (rest : List Char) :
    splitAtFirst? pattern (text ++ separator :: rest) =
      (splitAtFirst? pattern (separator :: rest)).map fun parts =>
        (text ++ parts.1, parts.2) := by
  induction text with
  | nil => simp
  | cons character text inductionHypothesis =>
      rw [List.infix_cons_iff, not_or] at missing
      have unlike : ¬ pattern <+: character :: (text ++ separator :: rest) :=
        fun begins => missing.1 (prefix_of_prefix_append outside begins)
      rw [List.cons_append, splitAtFirst?_cons unlike, inductionHypothesis missing.2,
        Option.map_map]
      rfl

/-- A pattern that does not hold its first character again is found behind a text without it. -/
theorem splitAtFirst?_behind {first : Char} {others : List Char} (opens : pattern = first :: others)
    (single : first ∉ others) (missing : ¬ pattern <:+: text) (rest : List Char) :
    splitAtFirst? pattern (text ++ (pattern ++ rest)) = some (text, rest) := by
  have outside : first ∉ pattern.tail := opens ▸ single
  have behind := splitAtFirst?_append_of_missing missing outside (others ++ rest)
  rw [← List.cons_append, ← opens] at behind
  rw [behind, splitAtFirst?_self (opens ▸ List.cons_ne_nil first others), Option.map_some,
    List.append_nil]

/-- A pattern that stands somewhere in a text has a first occurrence. -/
theorem exists_splitAtFirst? (inside : pattern <:+: text) :
    ∃ parts, splitAtFirst? pattern text = some parts := by
  induction text with
  | nil => exact ⟨_, by rw [splitAtFirst?, if_pos (List.eq_nil_of_infix_nil inside)]⟩
  | cons character text inductionHypothesis =>
      by_cases begins : pattern <+: character :: text
      · exact ⟨_, splitAtFirst?_of_begins begins⟩
      · obtain ⟨parts, found⟩ :=
          inductionHypothesis ((List.infix_cons_iff.mp inside).resolve_left begins)
        exact ⟨_, by rw [splitAtFirst?_cons begins, found, Option.map_some]⟩

/-- A pattern is replaced behind a part without its first character. -/
theorem replaceFirst_behind {first : Char} {others : List Char} (opens : pattern = first :: others)
    (absent : first ∉ text) (rest replacement : List Char) :
    replaceFirst (text ++ (pattern ++ rest)) pattern replacement =
      text ++ (expand pattern text rest replacement ++ rest) := by
  have nonempty : pattern ≠ [] := opens ▸ List.cons_ne_nil first others
  rw [replaceFirst, splitAtFirst?_append_of_not_mem opens absent, splitAtFirst?_self nonempty,
    Option.map_some]
  simp only [List.append_nil, List.append_assoc]

theorem eq_of_splitAtFirst? {before after : List Char}
    (found : splitAtFirst? pattern text = some (before, after)) :
    text = before ++ pattern ++ after := by
  induction text generalizing before with
  | nil =>
      rw [splitAtFirst?] at found
      split at found
      next empty =>
        cases found
        simp [empty]
      next => cases found
  | cons character text inductionHypothesis =>
      by_cases begins : pattern <+: character :: text
      · rw [splitAtFirst?_of_begins begins] at found
        cases found
        exact List.prefix_iff_eq_append.mp begins |>.symm
      · rw [splitAtFirst?_cons begins] at found
        obtain ⟨parts, split, same⟩ := Option.map_eq_some_iff.mp found
        cases same
        rw [List.cons_append, List.cons_append, inductionHypothesis split]

end CommandWords.Text
