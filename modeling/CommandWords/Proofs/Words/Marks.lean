/-
This file says what the marks of a scan mean for the characters of a word. A scan only sets marks,
and a word without any of them is written as it is.
-/

import CommandWords.ListElement
import Mathlib.Tactic.SplitIfs

namespace CommandWords.ListElement

@[simp] theorem refusesBraces_braced (flags : Flags) :
    flags.braced.refusesBraces = flags.refusesBraces := rfl

@[simp] theorem refusesBraces_broken (flags : Flags) : flags.broken.refusesBraces = true := rfl

@[simp] theorem needQuotes_braced (flags : Flags) : flags.braced.needQuotes = true := rfl

@[simp] theorem needQuotes_broken (flags : Flags) : flags.broken.needQuotes = true := by
  simp [Flags.broken, Flags.needQuotes]

/-- A scan only marks flags, so it keeps what both marks keep. -/
theorem scanFrom_keeps (holds : Flags → Prop)
    (braced : ∀ flags, holds flags → holds flags.braced)
    (broken : ∀ flags, holds flags → holds flags.broken)
    (depth : Int) (flags : Flags) (word : List Char) (given : holds flags) :
    holds (scanFrom depth flags word) := by
  fun_induction scanFrom depth flags word with
  | case1 => exact given
  | case2 => exact broken _ given
  | case3 => exact broken _ given
  | case4 _ _ _ inductionHypothesis => exact inductionHypothesis (broken _ given)
  | case5 _ _ _ _ _ inductionHypothesis => exact inductionHypothesis (braced _ given)
  | case6 _ _ _ _ _ inductionHypothesis => exact inductionHypothesis given
  | case7 _ _ _ _ _ _ inductionHypothesis =>
      apply inductionHypothesis
      split_ifs
      · exact broken _ given
      · exact given
  | case8 _ _ _ _ _ _ _ _ _ inductionHypothesis => exact inductionHypothesis (braced _ given)
  | case9 _ _ _ _ _ _ _ _ _ inductionHypothesis => exact inductionHypothesis given

theorem refusesBraces_scanFrom (depth : Int) (flags : Flags) (word : List Char)
    (refused : flags.refusesBraces = true) : (scanFrom depth flags word).refusesBraces = true :=
  scanFrom_keeps (fun flags => flags.refusesBraces = true) (fun _ => id) (fun _ _ => rfl)
    depth flags word refused

theorem needQuotes_scanFrom (depth : Int) (flags : Flags) (word : List Char)
    (needed : flags.needQuotes = true) : (scanFrom depth flags word).needQuotes = true :=
  scanFrom_keeps (fun flags => flags.needQuotes = true) (fun _ _ => rfl)
    (fun flags _ => needQuotes_broken flags) depth flags word needed

/-- The scan takes every backslash apart before it looks at other characters. -/
theorem no_backslash {character : Char} {rest : List Char}
    (alone : character = '\\' → rest = [] → False)
    (paired : ∀ hidden tail, character = '\\' → rest = hidden :: tail → False) :
    character ≠ '\\' := by
  rintro rfl
  cases rest with
  | nil => exact alone rfl rfl
  | cons hidden tail => exact paired hidden tail rfl rfl

/-- A word that needs no quotes holds no active character and no backslash. -/
theorem plain_of_scanFrom (depth : Int) (flags : Flags) (word : List Char)
    (plain : (scanFrom depth flags word).needQuotes = false) :
    ∀ character ∈ word, character ≠ '\\' ∧ isActive character = false := by
  fun_induction scanFrom depth flags word with
  | case1 => simp
  | case2 => simp
  | case3 => simp at plain
  | case4 depth flags rest _ =>
      rw [needQuotes_scanFrom _ _ _ (needQuotes_broken flags)] at plain
      contradiction
  | case5 depth flags hidden rest _ _ =>
      rw [needQuotes_scanFrom _ _ _ (needQuotes_braced flags)] at plain
      contradiction
  | case6 depth flags rest _ _ inductionHypothesis =>
      exact List.forall_mem_cons.mpr ⟨by decide, inductionHypothesis plain⟩
  | case7 depth flags rest _ _ _ inductionHypothesis =>
      exact List.forall_mem_cons.mpr ⟨by decide, inductionHypothesis plain⟩
  | case8 depth flags character rest _ _ _ _ _ _ =>
      rw [needQuotes_scanFrom _ _ _ (needQuotes_braced flags)] at plain
      contradiction
  | case9 depth flags character rest alone paired _ _ inactive inductionHypothesis =>
      exact List.forall_mem_cons.mpr
        ⟨⟨no_backslash alone paired, eq_false_of_ne_true inactive⟩, inductionHypothesis plain⟩

/-- A word that needs no quotes does not start like a quoted word. -/
theorem unopened_of_plain {first : Char} {rest : List Char}
    (plain : (scanCharacters (first :: rest)).needQuotes = false) : opensWord first = false := by
  apply eq_false_of_ne_true
  intro opens
  simp only [scanCharacters, opens, if_true] at plain
  rw [needQuotes_scanFrom _ _ _ (needQuotes_braced Flags.plain)] at plain
  contradiction

end CommandWords.ListElement
