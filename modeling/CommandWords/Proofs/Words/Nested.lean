/-
This file shows that lists of quoted words are held by braces, so that lists inside lists are
written without backslashes of their own at any depth.
-/

import CommandWords.Proofs.Words.RoundTrip

namespace CommandWords.ListElement

theorem holds_append {first second : List Char} (before : Holds 0 first)
    (behind : Holds 0 second) : Holds 0 (first ++ second) := by
  obtain ⟨settles, line⟩ := holds_iff.mp before
  obtain ⟨settlesBehind, lineBehind⟩ := holds_iff.mp behind
  rw [holds_iff, settles_append settles.ended, oneLine_append settles.ended, settles.settled]
  exact ⟨⟨settles.inside, settlesBehind⟩, line, lineBehind⟩

theorem holds_intercalate {words : List (List Char)} (holds : ∀ word ∈ words, Holds 0 word) :
    Holds 0 ([' '].intercalate words) := by
  induction words with
  | nil => exact holds_nil.mpr rfl
  | cons first rest inductionHypothesis =>
      obtain ⟨holdsFirst, holdsRest⟩ := List.forall_mem_cons.mp holds
      have tail := inductionHypothesis holdsRest
      cases rest with
      | nil => simpa using holdsFirst
      | cons second others =>
          rw [List.intercalate_cons_cons, List.append_assoc]
          have blank : Holds 0 ([' '] ++ [' '].intercalate (second :: others)) :=
            (holds_cons (Int.le_refl 0) (by decide) _).mpr tail
          exact holds_append holdsFirst blank

/-- A pair of braces holds what is held inside it. -/
theorem holds_braceCharacters {word : List Char} (holds : Holds 0 word) :
    Holds 0 (braceCharacters word) := by
  obtain ⟨settles, line⟩ := holds_iff.mp holds
  have shape : braceCharacters word = '\x7b' :: (word ++ ['\x7d']) := rfl
  rw [shape, holds_cons (Int.le_refl 0) (by decide), holds_iff, settles_append settles.ended,
    oneLine_append settles.ended]
  have flat : level word word.length = 0 := (Int.zero_add _).symm.trans settles.settled
  have closing : Holds 1 ['\x7d'] := (holds_cons (by decide) (by decide) []).mpr (holds_nil.mpr rfl)
  obtain ⟨settlesClosing, lineClosing⟩ := holds_iff.mp closing
  rw [flat]
  refine ⟨⟨?_, settlesClosing⟩, line, lineClosing⟩
  intro position within
  have inside := settles.inside position within
  have opening : braceWeight '\x7b' = 1 := rfl
  omega

/-- Where no brace is written alone and no line end is hidden, nothing is to be held. -/
theorem Escaped.holds {word written : List Char} (escaped : Escaped true word written) :
    Holds 0 written := by
  induction escaped with
  | nil => exact holds_nil.mpr rfl
  | @pair letter _ _ listed _ inductionHypothesis =>
      refine (holds_pair (Int.le_refl 0) letter _).mpr ⟨?_, inductionHypothesis⟩
      rintro rfl
      exact absurd listed (by decide)
  | @single character _ _ plain _ unbraced _ inductionHypothesis =>
      have weightless : braceWeight character = 0 := by
        have other := unbraced rfl
        simp only [isBrace, Bool.or_eq_false_iff, decide_eq_false_iff_not] at other
        simp [braceWeight, other]
      rw [holds_cons (Int.le_refl 0) plain, weightless]
      exact inductionHypothesis

/-- Braces hold every quoted word, in whatever way it is written. -/
theorem Written.holds {word written : List Char} (spelled : Written word written) :
    Holds 0 written := by
  cases spelled with
  | braced accepted => exact holds_braceCharacters ((accepts_scanCharacters_iff word).mp accepted)
  | escaped refused =>
      have escaped := escaped_escapeCharacters (scanCharacters word).unbalanced word
      rw [unbalanced_scanCharacters, refused] at escaped ⊢
      exact escaped.holds
  | plain unquoted =>
      exact (accepts_scanCharacters_iff word).mp (Bool.or_eq_false_iff.mp unquoted).2

/-- The words of a list are quoted and stand in a row. -/
def row (words : List String) : String := " ".intercalate (words.map quote)

theorem refusesBraces_row (words : List String) : (scan (row words)).refusesBraces = false := by
  rw [scan, row, accepts_scanCharacters_iff, String.toList_intercalate]
  apply holds_intercalate
  intro written member
  obtain ⟨_, quoted, rfl⟩ := List.mem_map.mp member
  obtain ⟨word, _, rfl⟩ := List.mem_map.mp quoted
  rw [quote, String.toList_ofList]
  exact (written_quoteCharacters word.toList).holds

/-- A line stands in braces where it needs quotes. -/
def enclose (line : String) : String :=
  if needsQuotes line then "\x7b" ++ line ++ "\x7d" else line

theorem quote_of_accepted {line : String} (accepted : (scan line).refusesBraces = false) :
    quote line = enclose line := by
  have refused : (scanCharacters line.toList).refusesBraces = false := accepted
  unfold quote quoteCharacters enclose needsQuotes scan
  simp only
  split
  next needed =>
    have wanted : (scanCharacters line.toList).wantsBraces = true := by
      rwa [Flags.needQuotes, refused, Bool.or_false] at needed
    rw [convertCharacters, if_pos (by simp [wanted, refused])]
    simp [braceCharacters, String.ext_iff]
  next => exact String.ofList_toList

/-- A list holds words and other lists. -/
inductive Nested where
  | word (text : String)
  | list (entries : List Nested)

namespace Nested

mutual

/-- The entries of a list are quoted, also those that are lists themselves. -/
def text : Nested → String
  | word text => text
  | list entries => row (texts entries)

def texts : List Nested → List String
  | [] => []
  | entry :: rest => entry.text :: texts rest

end

mutual

/-- Words are quoted, and lists stand in braces or as they are. -/
def braced : Nested → String
  | word text => quote text
  | list entries => enclose (" ".intercalate (bracedAll entries))

def bracedAll : List Nested → List String
  | [] => []
  | entry :: rest => entry.braced :: bracedAll rest

end

mutual

theorem quote_text : ∀ nested : Nested, quote nested.text = nested.braced
  | word text => rfl
  | list entries => by
      rw [text, braced, quote_of_accepted (refusesBraces_row _), row, map_quote_texts entries]

theorem map_quote_texts : ∀ entries : List Nested, (texts entries).map quote = bracedAll entries
  | [] => rfl
  | entry :: rest => by
      rw [texts, bracedAll, List.map_cons, quote_text entry, map_quote_texts rest]

end

end Nested

/-- A row of quoted words never refuses braces. So a list that is quoted as one word of another
list stands in braces, or as it is, at any depth. -/
theorem rows_accept_braces :
    (∀ words : List String,
      (scan (" ".intercalate (words.map quote))).refusesBraces = false ∧
        (scan (" ".intercalate (words.map quote))).unbalanced = false) ∧
      ∀ nested : Nested, quote nested.text = nested.braced := by
  refine ⟨?_, Nested.quote_text⟩
  intro words
  have accepted := refusesBraces_row words
  exact ⟨accepted, (unbalanced_scanCharacters _).trans accepted⟩

end CommandWords.ListElement
