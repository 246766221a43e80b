/-
This file says which words a reader of lists takes from braces: those that settle their own braces.
-/

import CommandWords.Proofs.Words.Hidden
import CommandWords.Proofs.Words.Reader

namespace CommandWords.ListElement

open ListReader

theorem map_push_eq_some_iff {found : Option (List Char × List Char)} {character : Char}
    {content behind : List Char} :
    found.map (push character) = some (content, behind) ↔
      ∃ inner, content = character :: inner ∧ found = some (inner, behind) := by
  rw [Option.map_eq_some_iff]
  constructor
  · rintro ⟨⟨inner, rest⟩, found, equal⟩
    obtain ⟨rfl, rfl⟩ := Prod.mk.inj equal
    exact ⟨inner, rfl, found⟩
  · rintro ⟨inner, rfl, found⟩
    exact ⟨_, found, rfl⟩

/-- A character that does not close the outer brace belongs to the word. The reader goes on at the
depth behind it. -/
theorem pushed_iff {depth next : Int} {character : Char} {rest content behind : List Char}
    {found : Option (List Char × List Char)} (inside : character = '\x7d' → depth ≠ 0)
    (deeper : ∀ inner, Settles depth (character :: inner) ↔ Settles next inner)
    (reads : ∀ inner, found = some (inner, behind) ↔
      rest = inner ++ '\x7d' :: behind ∧ Settles next inner) :
    found.map (push character) = some (content, behind) ↔
      character :: rest = content ++ '\x7d' :: behind ∧ Settles depth content := by
  rw [map_push_eq_some_iff]
  constructor
  · rintro ⟨inner, rfl, read⟩
    obtain ⟨rfl, settles⟩ := (reads inner).mp read
    exact ⟨rfl, (deeper inner).mpr settles⟩
  · rintro ⟨equal, settles⟩
    rcases List.cons_eq_append_iff.mp equal with ⟨rfl, closing⟩ | ⟨inner, rfl, tail⟩
    · obtain ⟨rfl, _⟩ := List.cons.inj closing
      exact absurd (settles_nil.mp settles) (inside rfl)
    · exact ⟨inner, rfl, (reads inner).mpr ⟨tail, (deeper inner).mp settles⟩⟩

/-- The reader ends at the brace that closes the outer one, and it takes all that is in front. The
depth counts the braces that are open inside the outer one. -/
theorem readBraced_eq_some_iff {depth : Nat} {characters content behind : List Char} :
    readBraced depth characters = some (content, behind) ↔
      characters = content ++ '\x7d' :: behind ∧ Settles depth content := by
  have deep (depth : Nat) : (0 : Int) ≤ depth := Int.natCast_nonneg depth
  fun_induction readBraced depth characters generalizing content with
  | case1 => simp
  | case2 depth hidden rest inductionHypothesis =>
      rw [← Option.map_map, map_push_eq_some_iff]
      simp only [map_push_eq_some_iff, inductionHypothesis]
      constructor
      · rintro ⟨_, rfl, inner, rfl, rfl, settles⟩
        exact ⟨rfl, (settles_pair (deep depth) hidden inner).mpr settles⟩
      · rintro ⟨equal, settles⟩
        obtain ⟨inner, rfl, tail⟩ := List.cons_eq_append_iff.mp equal |>.resolve_left (by simp)
        rcases List.cons_eq_append_iff.mp tail with ⟨rfl, _⟩ | ⟨inner, rfl, last⟩
        · exact absurd settles not_settles_backslash
        · have behindPair := (settles_pair (deep depth) hidden inner).mp settles
          exact ⟨_, rfl, inner, rfl, last, behindPair⟩
  | case3 depth rest _ inductionHypothesis =>
      have deeper := settles_cons (deep depth) (show '\x7b' ≠ '\\' by decide)
      exact pushed_iff (fun same => absurd same (by decide)) deeper fun inner => inductionHypothesis
  | case4 rest =>
      constructor
      · intro read
        obtain ⟨rfl, rfl⟩ := Prod.mk.inj (Option.some.inj read)
        exact ⟨rfl, settles_nil.mpr rfl⟩
      · rintro ⟨equal, settles⟩
        rcases List.cons_eq_append_iff.mp equal with ⟨rfl, closing⟩ | ⟨inner, rfl, _⟩
        · rw [(List.cons.inj closing).2]
        · -- A closing brace in front would close more than is open.
          have early := settles.inside 1 (by simp)
          simp [level, isHidden, braceWeight] at early
  | case5 depth rest _ _ inner inductionHypothesis =>
      have deeper := settles_cons (deep depth) (show '\x7d' ≠ '\\' by decide)
      have before : ((depth : Int) + braceWeight '\x7d') = ((depth - 1 : Nat) : Int) := by
        have closing : braceWeight '\x7d' = -1 := rfl
        omega
      rw [before] at deeper
      exact pushed_iff (fun _ => by omega) deeper fun inner => inductionHypothesis
  | case6 depth character rest paired opening closing inductionHypothesis =>
      by_cases escape : character = '\\'
      · -- A backslash at the end hides nothing, and no brace stands behind it.
        subst escape
        cases rest with
        | nil =>
            have unclosed : ['\\'] ≠ content ++ '\x7d' :: behind := by
              intro equal
              have member : '\x7d' ∈ ['\\'] := by
                rw [equal]
                exact List.mem_append_right content List.mem_cons_self
              simp at member
            simp [readBraced, unclosed]
        | cons hidden rest => exact absurd rfl (paired hidden rest rfl)
      · have deeper := settles_cons (deep depth) escape
        have weightless : braceWeight character = 0 := by simp [braceWeight, opening, closing]
        rw [weightless, Int.add_zero] at deeper
        exact pushed_iff (fun same => absurd same closing) deeper fun inner => inductionHypothesis

end CommandWords.ListElement
