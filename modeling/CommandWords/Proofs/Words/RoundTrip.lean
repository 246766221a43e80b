/-
This file proves that a reader of lists takes every quoted word back. The three ways to write a
word are read in three ways, so each way has its own round trip.
-/

import CommandWords.Proofs.Words.Braced
import CommandWords.Proofs.Words.Escaped
import Mathlib.Data.List.Forall2

namespace CommandWords.ListElement

open ListReader

/-- A written word is read as a word when white space or the end of the list stands behind it. -/
structure ReadsAs (written word : List Char) : Prop where
  solid : ∃ first rest, written = first :: rest ∧ isSpace first = false
  read : ∀ behind, endsWord behind = true → readWord (written ++ behind) = some (word, behind)

theorem ReadsAs.readAll {written word : List Char} (reads : ReadsAs written word)
    {behind : List Char} (ended : endsWord behind = true) :
    readAll (written ++ behind) = (readAll behind).map (word :: ·) := by
  obtain ⟨first, rest, rfl, solid⟩ := reads.solid
  exact readAll_word solid (reads.read behind ended)

theorem readWord_bare {first : Char} (opens : opensWord first = false) (rest : List Char) :
    readWord (first :: rest) = some (readBare (first :: rest)) := by
  simp only [opensWord, Bool.or_eq_false_iff, decide_eq_false_iff_not] at opens
  unfold readWord
  split
  next equal => exact absurd (List.cons.inj equal).1 opens.1
  next equal => exact absurd (List.cons.inj equal).1 opens.2
  next => rfl

/-- A word that starts like a bare word is read as one. -/
theorem ReadsAs.of_readBare {first : Char} {rest word : List Char}
    (solid : isSpace first = false) (opens : opensWord first = false)
    (read : ∀ behind, endsWord behind = true →
      readBare (first :: rest ++ behind) = (word, behind)) :
    ReadsAs (first :: rest) word where
  solid := ⟨first, rest, rfl, solid⟩
  read behind ended := by
    rw [List.cons_append, readWord_bare opens, ← List.cons_append, read behind ended]

theorem readsAs_plain {word : List Char} (plain : (scanCharacters word).needQuotes = false) :
    ReadsAs word word := by
  cases word with
  | nil => contradiction
  | cons first rest =>
      have bare := plain_of_scanFrom _ _ _ plain
      have solid := solid_of_inactive (bare first List.mem_cons_self).2
      exact .of_readBare solid (unopened_of_plain plain)
        fun behind ended => (Escaped.of_plain bare).readBare ended

theorem readsAs_braced {word : List Char} (settles : Settles 0 word) :
    ReadsAs (braceCharacters word) word where
  solid := ⟨_, _, rfl, by decide⟩
  read behind ended := by
    have closed : readBraced 0 (word ++ '\x7d' :: behind) = some (word, behind) :=
      readBraced_eq_some_iff.mpr ⟨rfl, settles⟩
    have shape : braceCharacters word ++ behind = '\x7b' :: (word ++ '\x7d' :: behind) := by
      simp [braceCharacters]
    rw [shape, readWord, closed]
    simp [ended]

theorem escapeCharacters_cons {unbalanced : Bool} {first : Char} (inner : first ≠ '\x7b')
    (rest : List Char) :
    escapeCharacters unbalanced (first :: rest) =
      escapeCharacter unbalanced first ++ rest.flatMap (escapeCharacter unbalanced) := by
  unfold escapeCharacters
  split
  next equal => exact absurd (List.cons.inj equal).1 inner
  next => rfl

/-- An escaped word starts with a backslash or with a character that opens nothing. -/
theorem escapeCharacters_start (unbalanced : Bool) {word : List Char} (nonempty : word ≠ []) :
    ∃ first rest, escapeCharacters unbalanced word = first :: rest ∧ isSpace first = false ∧
      opensWord first = false := by
  cases word with
  | nil => contradiction
  | cons first rest =>
      by_cases leading : first = '\x7b'
      · subst leading
        exact ⟨_, _, rfl, by decide, by decide⟩
      · rw [escapeCharacters_cons leading]
        unfold escapeCharacter
        split
        next => exact ⟨_, _, rfl, by decide, by decide⟩
        next control =>
          split
          next => exact ⟨_, _, rfl, by decide, by decide⟩
          next unescaped =>
            obtain ⟨_, inactive, _⟩ := bare_of_unescaped control unescaped
            have unquoted : first ≠ '"' := by
              rintro rfl
              exact unescaped rfl
            exact ⟨_, _, rfl, solid_of_inactive inactive, by simp [opensWord, leading, unquoted]⟩

theorem readsAs_escaped (unbalanced : Bool) {word : List Char} (nonempty : word ≠ []) :
    ReadsAs (escapeCharacters unbalanced word) word := by
  obtain ⟨first, rest, written, solid, opens⟩ := escapeCharacters_start unbalanced nonempty
  have read := fun behind (ended : endsWord behind = true) =>
    (escaped_escapeCharacters unbalanced word).readBare ended
  rw [written] at read ⊢
  exact .of_readBare solid opens read

/-- A quoted word is written in one of three ways. -/
inductive Written (word : List Char) : List Char → Prop
  | braced (accepted : (scanCharacters word).refusesBraces = false) :
      Written word (braceCharacters word)
  | escaped (refused : (scanCharacters word).refusesBraces = true) :
      Written word (escapeCharacters (scanCharacters word).unbalanced word)
  | plain (unquoted : (scanCharacters word).needQuotes = false) : Written word word

theorem written_quoteCharacters (word : List Char) : Written word (quoteCharacters word) := by
  unfold quoteCharacters
  simp only
  split
  next needed =>
    unfold convertCharacters
    split
    next inBraces =>
      apply Written.braced
      simp only [Bool.or_eq_true, decide_eq_true_eq, Bool.and_eq_true, Bool.not_eq_true']
        at inBraces
      rcases inBraces with rfl | ⟨_, accepted⟩
      · rfl
      · exact accepted
    next outside =>
      apply Written.escaped
      simp only [Flags.needQuotes, Bool.or_eq_true] at needed
      simp only [Bool.or_eq_true, Bool.and_eq_true, Bool.not_eq_true', not_or, not_and] at outside
      rcases needed with wanted | refused
      · exact eq_true_of_ne_false (outside.2 wanted)
      · exact refused
  next plain => exact .plain (eq_false_of_ne_true plain)

/-- Only a word with characters refuses braces. -/
theorem nonempty_of_refusesBraces {word : List Char}
    (refused : (scanCharacters word).refusesBraces = true) : word ≠ [] := by
  rintro rfl
  cases refused

theorem Written.readsAs {word written : List Char} (spelled : Written word written) :
    ReadsAs written word := by
  cases spelled with
  | braced accepted =>
      have holds := (accepts_scanCharacters_iff word).mp accepted
      exact readsAs_braced (holds_iff.mp holds).1
  | escaped refused => exact readsAs_escaped _ (nonempty_of_refusesBraces refused)
  | plain unquoted => exact readsAs_plain unquoted

theorem readsAs_quoteCharacters (word : List Char) : ReadsAs (quoteCharacters word) word :=
  (written_quoteCharacters word).readsAs

/-- Written words stay apart when one space stands between them. -/
theorem readAll_of_forall₂ {written words : List (List Char)}
    (reads : List.Forall₂ ReadsAs written words) :
    readAll ([' '].intercalate written) = some words := by
  induction reads with
  | nil => exact readAll_nil
  | @cons first word others words firstReads rest inductionHypothesis =>
      cases rest with
      | nil =>
          have alone := firstReads.readAll (show endsWord [] = true from rfl)
          rw [List.append_nil, readAll_nil] at alone
          simpa using alone
      | cons secondReads rest =>
          rw [List.intercalate_cons_cons, List.append_assoc, firstReads.readAll rfl,
            List.singleton_append, readAll_space rfl, inductionHypothesis]
          rfl

/-- Words that are read back one by one are read back from one line. -/
theorem read_intercalate {printed words : List String}
    (reads : List.Forall₂ (fun shown word => ReadsAs shown.toList word.toList) printed words) :
    ListReader.read (" ".intercalate printed) = some words := by
  have characters : List.Forall₂ ReadsAs (printed.map String.toList) (words.map String.toList) :=
    List.forall₂_map_left_iff.mpr (List.forall₂_map_right_iff.mpr reads)
  have spelled : (words.map String.toList).map String.ofList = words := by
    simp [Function.comp_def]
  have line : (" ".intercalate printed).toList = [' '].intercalate (printed.map String.toList) :=
    String.toList_intercalate
  rw [ListReader.read, line, readAll_of_forall₂ characters, Option.map_some, spelled]

theorem readAll_intercalate {words : List (List Char)} {written : List Char → List Char}
    (reads : ∀ word ∈ words, ReadsAs (written word) word) :
    readAll ([' '].intercalate (words.map written)) = some words :=
  readAll_of_forall₂ (List.forall₂_map_left_iff.mpr (List.forall₂_same.mpr reads))

/-- A list of quoted words with one space between them is read as exactly these words. -/
theorem read_intercalate_quote (words : List String) :
    ListReader.read (" ".intercalate (words.map quote)) = some words := by
  have written : (" ".intercalate (words.map quote)).toList =
      [' '].intercalate ((words.map String.toList).map quoteCharacters) := by
    rw [String.toList_intercalate, List.map_map, List.map_map]
    congr 1
    apply List.map_congr_left
    intro word _
    exact String.toList_ofList
  have spelled : (words.map String.toList).map String.ofList = words := by
    rw [List.map_map]
    exact (List.map_congr_left fun word _ => String.ofList_toList).trans (List.map_id words)
  rw [ListReader.read, written, readAll_intercalate fun word _ => readsAs_quoteCharacters word,
    Option.map_some, spelled]

/-- A word in braces is read as this one word exactly when it settles its own braces. Otherwise the
brace in front is closed too early, or never. -/
theorem readAll_braceCharacters_iff {word : List Char} :
    readAll (braceCharacters word) = some [word] ↔ Settles 0 word := by
  constructor
  · intro read
    have shape : braceCharacters word = '\x7b' :: (word ++ ['\x7d']) := rfl
    rw [shape, readAll, dif_neg (by decide)] at read
    split at read
    next => cases read
    next first behind found =>
      obtain ⟨others, _, equal⟩ := Option.map_eq_some_iff.mp read
      obtain ⟨rfl, _⟩ := List.cons.inj equal
      obtain ⟨taken, _⟩ := Option.filter_eq_some_iff.mp found
      exact (readBraced_eq_some_iff.mp taken).2
  · intro settles
    have alone := (readsAs_braced settles).readAll (show endsWord [] = true from rfl)
    simpa using alone

theorem readAll_escapeCharacters (unbalanced : Bool) {word : List Char} (nonempty : word ≠ []) :
    readAll (escapeCharacters unbalanced word) = some [word] := by
  have alone := (readsAs_escaped unbalanced nonempty).readAll (show endsWord [] = true from rfl)
  simpa using alone

theorem read_convert_eq_some_iff {word : String} {flags : Flags} :
    ListReader.read (convert word flags) = some [word] ↔
      readAll (convertCharacters word.toList flags) = some [word.toList] := by
  rw [ListReader.read, convert, String.toList_ofList, Option.map_eq_some_iff]
  constructor
  · rintro ⟨words, read, equal⟩
    obtain ⟨characters, rfl, spelled⟩ := List.map_eq_singleton_iff.mp equal
    rw [read, ← spelled, String.toList_ofList]
  · intro read
    exact ⟨_, read, by rw [List.map_singleton, String.ofList_toList]⟩

/-- Under any flags a word is read back from its written form, unless the flags ask for braces and
braces cannot hold it. -/
theorem read_convert_iff (word : String) (flags : Flags) :
    ListReader.read (convert word flags) = some [word] ↔
      word = "" ∨ ¬ (flags.wantsBraces = true ∧ flags.refusesBraces = false) ∨
        ClosedAtEnd (braceCharacters word.toList) := by
  have empty : word.toList = [] ↔ word = "" := String.toList_eq_nil_iff
  rw [read_convert_eq_some_iff, convertCharacters]
  split
  next inBraces =>
    simp only [Bool.or_eq_true, decide_eq_true_eq, Bool.and_eq_true, Bool.not_eq_true', empty]
      at inBraces
    rw [readAll_braceCharacters_iff, closedAtEnd_iff]
    constructor
    · exact fun settles => .inr (.inr settles)
    · rintro (rfl | outside | settles)
      · exact settles_nil.mpr rfl
      · obtain rfl := inBraces.resolve_right outside
        exact settles_nil.mpr rfl
      · exact settles
  next outside =>
    simp only [Bool.or_eq_true, decide_eq_true_eq, Bool.and_eq_true, Bool.not_eq_true', empty,
      not_or] at outside
    obtain ⟨nonempty, unbraced⟩ := outside
    have read := readAll_escapeCharacters flags.unbalanced fun none => nonempty (empty.mp none)
    exact iff_of_true read (.inr (.inl unbraced))

end CommandWords.ListElement
