/-
This file describes words that are written without braces. A backslash stands in front of every
character that a list reader would not take as it is, and the reader takes the word back.
-/

import CommandWords.Proofs.Words.Reader
import Mathlib.Tactic.SplitIfs

namespace CommandWords.ListElement

open ListReader

/-- A backslash stands in front of these characters only. -/
def escapedCharacters : List Char :=
  [']', '[', '$', ';', ' ', '\\', '"', '\x7b', '\x7d', 'f', 'n', 'r', 't', 'v']

/-- The word is written as a row of single characters and of backslashes with a character behind
them. Where the braces of the word do not balance, none of them is written alone. -/
inductive Escaped (unbalanced : Bool) : List Char → List Char → Prop
  | nil : Escaped unbalanced [] []
  | pair {letter : Char} {word written : List Char} (listed : letter ∈ escapedCharacters)
      (rest : Escaped unbalanced word written) :
      Escaped unbalanced (decode letter :: word) ('\\' :: letter :: written)
  | single {character : Char} {word written : List Char} (plain : character ≠ '\\')
      (inactive : isActive character = false)
      (unbraced : unbalanced = true → isBrace character = false)
      (rest : Escaped unbalanced word written) :
      Escaped unbalanced (character :: word) (character :: written)

theorem decode_controlLetter {character letter : Char}
    (control : controlLetter? character = some letter) :
    decode letter = character ∧ letter ∈ escapedCharacters := by
  unfold controlLetter? at control
  split_ifs at control with feed line carriage tab vertical
  all_goals
    obtain rfl := Option.some.inj control
    subst character
    exact ⟨rfl, by decide⟩

/-- A backslash in front of one of these characters stands for the character itself. -/
theorem decode_escaped {character : Char} {unbalanced : Bool}
    (escaped : (takesBackslash character || (unbalanced && isBrace character)) = true) :
    decode character = character ∧ character ∈ escapedCharacters := by
  simp only [takesBackslash, isBrace, Bool.or_eq_true, Bool.and_eq_true, decide_eq_true_eq]
    at escaped
  rcases escaped with ((((((rfl | rfl) | rfl) | rfl) | rfl) | rfl) | rfl) | ⟨_, rfl | rfl⟩
  all_goals exact ⟨rfl, by decide⟩

/-- Characters without a backslash of their own are not active, and they are no backslash. -/
theorem bare_of_unescaped {character : Char} {unbalanced : Bool}
    (control : controlLetter? character = none)
    (unescaped : ¬ (takesBackslash character || (unbalanced && isBrace character)) = true) :
    character ≠ '\\' ∧ isActive character = false ∧
      (unbalanced = true → isBrace character = false) := by
  simp only [takesBackslash, Bool.or_eq_true, Bool.and_eq_true, decide_eq_true_eq, not_or,
    not_and] at unescaped
  obtain ⟨⟨⟨⟨⟨⟨⟨_, bracket⟩, dollar⟩, semicolon⟩, blank⟩, plain⟩, _⟩, unbraced⟩ := unescaped
  refine ⟨plain, ?_, fun unbalanced => eq_false_of_ne_true (unbraced unbalanced)⟩
  simp [isActive, isSpace, control, bracket, dollar, semicolon, blank]

/-- White space is active. -/
theorem solid_of_inactive {character : Char} (inactive : isActive character = false) :
    isSpace character = false :=
  (Bool.or_eq_false_iff.mp inactive).2

namespace Escaped

variable {unbalanced : Bool} {word written : List Char}

/-- Fewer characters may be written alone when the braces do not balance. -/
theorem loosen (escaped : Escaped true word written) : Escaped unbalanced word written := by
  induction escaped with
  | nil => exact .nil
  | pair listed _ inductionHypothesis => exact .pair listed inductionHypothesis
  | single plain inactive unbraced _ inductionHypothesis =>
      exact .single plain inactive (fun _ => unbraced rfl) inductionHypothesis

theorem cons (character : Char) (rest : Escaped unbalanced word written) :
    Escaped unbalanced (character :: word)
      (escapeCharacter unbalanced character ++ written) := by
  unfold escapeCharacter
  split
  next letter control =>
    obtain ⟨decoded, listed⟩ := decode_controlLetter control
    rw [← decoded]
    exact .pair listed rest
  next control =>
    split
    next escaped =>
      obtain ⟨decoded, listed⟩ := decode_escaped escaped
      have paired := Escaped.pair listed rest
      rwa [decoded] at paired
    next unescaped =>
      obtain ⟨plain, inactive, unbraced⟩ := bare_of_unescaped control unescaped
      exact .single plain inactive unbraced rest

theorem of_flatMap (unbalanced : Bool) (word : List Char) :
    Escaped unbalanced word (word.flatMap (escapeCharacter unbalanced)) := by
  induction word with
  | nil => exact .nil
  | cons character rest inductionHypothesis => exact inductionHypothesis.cons character

theorem of_plain {word : List Char}
    (bare : ∀ character ∈ word, character ≠ '\\' ∧ isActive character = false) :
    Escaped false word word := by
  induction word with
  | nil => exact .nil
  | cons character rest inductionHypothesis =>
      obtain ⟨⟨plain, inactive⟩, others⟩ := List.forall_mem_cons.mp bare
      exact .single plain inactive (fun unbalanced => absurd unbalanced Bool.false_ne_true)
        (inductionHypothesis others)

end Escaped

theorem escaped_escapeCharacters (unbalanced : Bool) (word : List Char) :
    Escaped unbalanced word (escapeCharacters unbalanced word) := by
  unfold escapeCharacters
  split
  next rest =>
    have inner : Escaped unbalanced rest (rest.flatMap (escapeCharacter true)) :=
      (Escaped.of_flatMap true rest).loosen
    have listed : '\x7b' ∈ escapedCharacters := by decide
    exact .pair listed inner
  next => exact .of_flatMap unbalanced word

theorem readBare_cons {character : Char} (plain : character ≠ '\\')
    (solid : isSpace character = false) (rest : List Char) :
    readBare (character :: rest) = push character (readBare rest) := by
  rw [readBare]
  · simp [solid]
  · intro _ _ equal
    exact absurd equal plain

theorem readBare_of_endsWord {behind : List Char} (ended : endsWord behind = true) :
    readBare behind = ([], behind) := by
  cases behind with
  | nil => rfl
  | cons character rest =>
      have blank : isSpace character = true := ended
      rw [readBare]
      · simp [blank]
      · rintro hidden tail rfl
        exact absurd blank (by decide)

/-- A word that was written without braces is read back. -/
theorem Escaped.readBare {unbalanced : Bool} {word written : List Char}
    (escaped : Escaped unbalanced word written) {behind : List Char}
    (ended : endsWord behind = true) :
    ListReader.readBare (written ++ behind) = (word, behind) := by
  induction escaped with
  | nil => exact readBare_of_endsWord ended
  | @pair letter word written _ _ inductionHypothesis =>
      change push (decode letter) (ListReader.readBare (written ++ behind)) = _
      rw [inductionHypothesis]
      rfl
  | single plain inactive _ _ inductionHypothesis =>
      rw [List.cons_append, readBare_cons plain (solid_of_inactive inactive),
        inductionHypothesis]
      rfl

end CommandWords.ListElement
