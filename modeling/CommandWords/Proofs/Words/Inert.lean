/-
This file proves that nothing in a quoted word splits a list or starts a substitution. Braces hold
such characters, and outside braces each of them is hidden by a backslash.
-/

import CommandWords.Proofs.Words.RoundTrip

namespace CommandWords.ListElement

/-- These characters split a list or start a substitution where they are not hidden. -/
def activeCharacters : List Char :=
  ['[', '$', ';', ' ', '\x0c', '\n', '\x0d', '\t', '\x0b']

theorem isActive_iff {character : Char} :
    isActive character = true ↔ character ∈ activeCharacters := by
  unfold isActive isSpace controlLetter? activeCharacters
  split_ifs <;> simp_all [or_assoc]

/-- Outside braces, a backslash hides every active character and no other backslash is left. -/
structure Inert (written : List Char) : Prop where
  hidden : ∀ position character, written[position]? = some character →
    character ∈ activeCharacters → isHidden written position = true
  escaped : ∀ position, written[position]? = some '\\' → isHidden written position = false →
    ∃ character ∈ escapedCharacters, written[position + 1]? = some character
  ended : isHidden written written.length = false

theorem inert_nil : Inert [] where
  hidden := by simp
  escaped := by simp
  ended := rfl

theorem Inert.append {first second : List Char} (before : Inert first) (behind : Inert second) :
    Inert (first ++ second) where
  hidden := by
    intro position character found active
    rcases getElem?_append_cases before.ended found with ⟨inFirst, same⟩ | ⟨rest, _, inSecond, same⟩
    · rw [same]
      exact before.hidden position character inFirst active
    · rw [same]
      exact behind.hidden rest character inSecond active
  escaped := by
    intro position escape bare
    rcases getElem?_append_cases before.ended escape with
      ⟨inFirst, same⟩ | ⟨rest, rfl, inSecond, same⟩
    · obtain ⟨character, listed, found⟩ := before.escaped position inFirst (same ▸ bare)
      obtain ⟨within, _⟩ := List.getElem?_eq_some_iff.mp found
      exact ⟨character, listed, (List.getElem?_append_left within).trans found⟩
    · obtain ⟨character, listed, found⟩ := behind.escaped rest inSecond (same ▸ bare)
      refine ⟨character, listed, ?_⟩
      rw [Nat.add_assoc, List.getElem?_append_right (Nat.le_add_right _ _),
        Nat.add_sub_cancel_left, found]
  ended := by
    rw [List.length_append, isHidden_append before.ended]
    exact behind.ended

theorem inert_single {character : Char} (plain : character ≠ '\\')
    (inactive : isActive character = false) : Inert [character] where
  hidden := by
    intro position other found active
    obtain rfl := List.mem_singleton.mp (List.mem_of_getElem? found)
    rw [isActive_iff.mpr active] at inactive
    contradiction
  escaped := by
    intro position escape _
    exact absurd (List.mem_singleton.mp (List.mem_of_getElem? escape)).symm plain
  ended := isHidden_single plain

theorem inert_pair {character : Char} (listed : character ∈ escapedCharacters) :
    Inert ['\\', character] where
  hidden := by
    intro position other found active
    cases position with
    | zero =>
        obtain rfl := Option.some.inj found
        exact absurd active (by decide)
    | succ position =>
        cases position with
        | zero => rfl
        | succ position => simp at found
  escaped := by
    intro position escape bare
    cases position with
    | zero => exact ⟨character, listed, rfl⟩
    | succ position =>
        cases position with
        | zero => cases bare
        | succ position => simp at escape
  ended := isHidden_pair character

theorem Escaped.inert {unbalanced : Bool} {word written : List Char}
    (escaped : Escaped unbalanced word written) : Inert written := by
  induction escaped with
  | nil => exact inert_nil
  | pair listed _ inductionHypothesis => exact (inert_pair listed).append inductionHypothesis
  | single plain inactive _ _ inductionHypothesis =>
      exact (inert_single plain inactive).append inductionHypothesis

/-- A word stands in braces. The brace in front is closed by the last one and no earlier. -/
structure Enclosed (word written : List Char) : Prop where
  braced : written = '\x7b' :: word ++ ['\x7d']
  closed : ClosedAtEnd written
  oneLine : OneLine word

/-- A word stands without braces and nothing in it is active. -/
structure Bare (word written : List Char) : Prop extends Inert written where
  unopened : ∀ first ∈ written.head?, first ≠ '\x7b' ∧ first ≠ '"'
  /-- Nothing is lost or added. -/
  reads : ListReader.readWord written = some (word, [])

theorem unopened_of_opensWord {first : Char} (opens : opensWord first = false) (rest : List Char) :
    ∀ head ∈ (first :: rest).head?, head ≠ '\x7b' ∧ head ≠ '"' := by
  intro head found
  obtain rfl := Option.some.inj found
  simpa [opensWord] using opens

theorem Written.enclosed_or_bare {word written : List Char} (spelled : Written word written) :
    Enclosed word written ∨ Bare word written := by
  have reads := spelled.readsAs.read [] rfl
  rw [List.append_nil] at reads
  cases spelled with
  | braced accepted =>
      obtain ⟨closed, line⟩ :=
        holds_iff_closedAtEnd.mp ((accepts_scanCharacters_iff word).mp accepted)
      exact .inl ⟨rfl, closed, line⟩
  | escaped refused =>
      have inert := (escaped_escapeCharacters (scanCharacters word).unbalanced word).inert
      obtain ⟨first, rest, shape, _, opens⟩ :=
        escapeCharacters_start (scanCharacters word).unbalanced (nonempty_of_refusesBraces refused)
      rw [shape] at inert reads ⊢
      exact .inr ⟨inert, unopened_of_opensWord opens rest, reads⟩
  | plain unquoted =>
      cases word with
      | nil => contradiction
      | cons first rest =>
          have inert := (Escaped.of_plain (plain_of_scanFrom _ _ _ unquoted)).inert
          exact .inr ⟨inert, unopened_of_opensWord (unopened_of_plain unquoted) rest, reads⟩

/-- A quoted word stands in braces that only its last character closes, or every character in it
that could split a list or start a substitution is hidden. -/
theorem quote_enclosed_or_bare (word : String) :
    Enclosed word.toList (quote word).toList ∨ Bare word.toList (quote word).toList := by
  rw [quote, String.toList_ofList]
  exact (written_quoteCharacters word.toList).enclosed_or_bare

end CommandWords.ListElement
