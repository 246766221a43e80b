/-
This file determines the texts whose small letters give a text of the basic alphabet: up to the
capitals of that alphabet they are that text.
-/

import CommandWords.Text.LowerCase

namespace CommandWords.Text

/-- Inside the basic alphabet small letters are those of the alphabet. -/
theorem smallLetter_basic {character : Char} (basic : character.toNat < 128) :
    smallLetter character = character.toLower := by
  have table : ∀ code < 128, smallLetter (Char.ofNat code) = (Char.ofNat code).toLower := by
    decide +kernel
  have found := table character.toNat basic
  rwa [Char.ofNat_toNat] at found

/-- Whether the small letters of a range are outside the basic alphabet. -/
def CaseRange.isOutside (range : CaseRange) : Bool :=
  128 ≤ range.first + range.distance &&
    (range.last + range.distance < 0xd800 ||
      (0xdfff < range.first + range.distance && range.last + range.distance < 0x110000))

/-- Of all capitals outside the basic alphabet only the sign for one kelvin has its small letter
inside. -/
theorem isOutside_of_mem {range : CaseRange} (member : range ∈ capitalRanges)
    (outside : 128 ≤ range.last) :
    range.isOutside ∨ range.first = range.last ∧ range.first + range.distance = 107 := by
  have table : ∀ range ∈ capitalRanges, 128 ≤ range.last →
      range.isOutside ∨ range.first = range.last ∧ range.first + range.distance = 107 := by
    decide +kernel
  exact table range member outside

theorem smallLetter_outside {character : Char} (outside : 128 ≤ character.toNat) :
    128 ≤ (smallLetter character).toNat ∨ smallLetter character = 'k' := by
  unfold smallLetter capitalDistance?
  cases found : capitalRanges.find? (fun range => range.contains character.toNat) with
  | none => exact .inl outside
  | some range =>
    have inside := List.find?_some found
    simp only [CaseRange.contains, Bool.and_eq_true, decide_eq_true_eq] at inside
    obtain ⟨⟨first, last⟩, _⟩ := inside
    simp only [Option.map_some]
    obtain far | ⟨single, sign⟩ :=
      isOutside_of_mem (List.mem_of_find?_eq_some found) (Nat.le_trans outside last)
    · left
      simp only [CaseRange.isOutside, Bool.and_eq_true, Bool.or_eq_true,
        decide_eq_true_eq] at far
      have valid : (character.toNat + range.distance).toNat.isValidChar := by
        unfold Nat.isValidChar
        omega
      have code : (Char.ofNat (character.toNat + range.distance).toNat).toNat =
          (character.toNat + range.distance).toNat := by
        rw [Char.ofNat, dif_pos valid]
        rfl
      omega
    · right
      have code : (character.toNat + range.distance).toNat = 107 := by omega
      rw [code]

/-- A text of the basic alphabet without the letter of the kelvin sign. -/
def Basic (characters : List Char) : Prop :=
  ∀ character ∈ characters, character.toNat < 128 ∧ character ≠ 'k'

theorem toLower_outside {character : Char} (outside : 128 ≤ character.toNat) :
    character.toLower = character := by
  unfold Char.toLower
  apply dif_neg
  intro capital
  have last : character.toNat ≤ 90 := UInt32.le_iff_toNat_le.mp capital.2
  omega

theorem smallLetter_eq_iff {character letter : Char} (basic : letter.toNat < 128)
    (other : letter ≠ 'k') : smallLetter character = letter ↔ character.toLower = letter := by
  by_cases inside : character.toNat < 128
  · rw [smallLetter_basic inside]
  · have outside : 128 ≤ character.toNat := by omega
    rw [toLower_outside outside]
    constructor
    · intro same
      obtain far | sign := smallLetter_outside outside
      · rw [same] at far
        omega
      · exact absurd (same.symm.trans sign) other
    · intro same
      rw [same] at outside
      omega

/-- The two capitals with a rule of their own give no text of the basic alphabet. -/
theorem lowerFrom_eq_iff (characters : List Char) (insideWord : Bool) (target : List Char)
    (basic : Basic target) :
    lowerFrom insideWord characters = target ↔ characters.map Char.toLower = target := by
  induction characters generalizing insideWord target with
  | nil => rfl
  | cons character rest inductionHypothesis =>
    have outside {head : Char} {tail : List Char} (far : 128 ≤ head.toNat) :
        head :: tail ≠ target := by
      intro same
      have near := (basic head (same ▸ List.mem_cons_self)).1
      omega
    rw [lowerFrom, List.map_cons]
    split
    case isTrue sigma =>
      rw [sigma.1]
      exact iff_of_false (outside (by decide)) (outside (by decide))
    case isFalse =>
      split
      case isTrue dotted =>
        rw [dotted]
        apply iff_of_false
        · intro same
          have near := (basic '\u0307' (same ▸ by simp)).1
          exact absurd near (by decide)
        · exact outside (by decide)
      case isFalse =>
        cases target with
        | nil => simp
        | cons letter letters =>
          obtain ⟨plain, others⟩ := List.forall_mem_cons.mp basic
          rw [List.singleton_append, List.cons.injEq, List.cons.injEq,
            smallLetter_eq_iff plain.1 plain.2, inductionHypothesis _ letters others]

theorem lowerCase_eq_iff {characters target : List Char} (basic : Basic target) :
    lowerCase characters = target ↔ characters.map Char.toLower = target :=
  lowerFrom_eq_iff characters false target basic

end CommandWords.Text
