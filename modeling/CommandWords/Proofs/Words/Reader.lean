/-
This file defines a reader of lists. A list is a row of words with white space between them. A
word in braces is taken as it is, and a backslash in any other word stands for one character
together with the character behind it.
-/

import CommandWords.ListElement

namespace CommandWords.ListReader

open ListElement (isSpace)

/-- The character that a backslash in front of this one stands for. -/
def decode (letter : Char) : Char :=
  if letter = 'f' then '\x0c'
  else if letter = 'n' then '\n'
  else if letter = 'r' then '\x0d'
  else if letter = 't' then '\t'
  else if letter = 'v' then '\x0b'
  else letter

/-- A result of reading is a word and the characters behind it. -/
def push (character : Char) (result : List Char × List Char) : List Char × List Char :=
  (character :: result.1, result.2)

/-- The depth counts the open braces inside the word. A backslash hides the character behind it. -/
def readBraced : Nat → List Char → Option (List Char × List Char)
  | _, [] => none
  | depth, '\\' :: hidden :: rest => (readBraced depth rest).map (push '\\' ∘ push hidden)
  | depth, character :: rest =>
      if character = '\x7b' then (readBraced (depth + 1) rest).map (push character)
      else if character = '\x7d' then
        if depth = 0 then some ([], rest) else (readBraced (depth - 1) rest).map (push character)
      else (readBraced depth rest).map (push character)

def readQuoted : List Char → Option (List Char × List Char)
  | [] => none
  | '\\' :: hidden :: rest => (readQuoted rest).map (push (decode hidden))
  | character :: rest =>
      if character = '"' then some ([], rest) else (readQuoted rest).map (push character)

def readBare : List Char → List Char × List Char
  | [] => ([], [])
  | '\\' :: hidden :: rest => push (decode hidden) (readBare rest)
  | character :: rest =>
      if isSpace character then ([], character :: rest) else push character (readBare rest)

/-- White space or the end of the list stands behind a word. -/
def endsWord : List Char → Bool
  | [] => true
  | character :: _ => isSpace character

/-- The first character of a word decides how the word is read. -/
def readWord : List Char → Option (List Char × List Char)
  | '\x7b' :: rest => (readBraced 0 rest).filter fun result => endsWord result.2
  | '"' :: rest => readQuoted rest
  | characters => some (readBare characters)

theorem length_of_map_push {found : Option (List Char × List Char)} {character : Char} {limit : Nat}
    (shorter : ∀ result, found = some result → result.2.length < limit)
    {result : List Char × List Char} (read : found.map (push character) = some result) :
    result.2.length < limit := by
  obtain ⟨inner, same, rfl⟩ := Option.map_eq_some_iff.mp read
  exact shorter inner same

theorem length_readBraced {depth : Nat} {characters : List Char} {result : List Char × List Char}
    (read : readBraced depth characters = some result) : result.2.length < characters.length := by
  fun_induction readBraced depth characters generalizing result with
  | case1 => simp at read
  | case2 depth hidden rest inductionHypothesis =>
      obtain ⟨inner, found, rfl⟩ := Option.map_eq_some_iff.mp read
      have shorter := inductionHypothesis found
      simp only [Function.comp, push, List.length_cons]
      omega
  | case3 depth rest _ inductionHypothesis =>
      exact Nat.lt_succ_of_lt (length_of_map_push (fun _ => inductionHypothesis) read)
  | case4 rest =>
      obtain rfl := Option.some.inj read
      exact Nat.lt_succ_self _
  | case5 depth rest _ _ _ inductionHypothesis =>
      exact Nat.lt_succ_of_lt (length_of_map_push (fun _ => inductionHypothesis) read)
  | case6 depth character rest _ _ _ inductionHypothesis =>
      exact Nat.lt_succ_of_lt (length_of_map_push (fun _ => inductionHypothesis) read)

theorem length_readQuoted {characters : List Char} {result : List Char × List Char}
    (read : readQuoted characters = some result) : result.2.length < characters.length := by
  fun_induction readQuoted characters generalizing result with
  | case1 => simp at read
  | case2 hidden rest inductionHypothesis =>
      have shorter := length_of_map_push (fun _ => inductionHypothesis) read
      simp only [List.length_cons]
      omega
  | case3 rest =>
      obtain rfl := Option.some.inj read
      exact Nat.lt_succ_self _
  | case4 character rest _ _ inductionHypothesis =>
      exact Nat.lt_succ_of_lt (length_of_map_push (fun _ => inductionHypothesis) read)

theorem length_readBare (characters : List Char) :
    (readBare characters).2.length ≤ characters.length := by
  fun_induction readBare characters with
  | case1 => exact Nat.le_refl _
  | case2 hidden rest inductionHypothesis =>
      simp only [push, List.length_cons]
      omega
  | case3 character rest _ _ => exact Nat.le_refl _
  | case4 character rest _ _ inductionHypothesis =>
      exact Nat.le_succ_of_le inductionHypothesis

/-- A bare word holds at least the character that it starts with. -/
theorem length_readBare_cons {character : Char} (solid : isSpace character = false)
    (rest : List Char) : (readBare (character :: rest)).2.length < (character :: rest).length := by
  cases rest with
  | nil =>
      rw [readBare]
      · simp [solid, push, readBare]
      · simp
  | cons hidden rest =>
      by_cases escape : character = '\\'
      · subst escape
        have shorter := length_readBare rest
        simp only [readBare, push, List.length_cons]
        omega
      · rw [readBare]
        · have shorter := length_readBare (hidden :: rest)
          simp only [solid, Bool.false_eq_true, if_false, push, List.length_cons] at shorter ⊢
          omega
        · intro _ _ equal
          exact absurd equal escape

theorem length_readWord {character : Char} (solid : isSpace character = false) {rest : List Char}
    {result : List Char × List Char} (read : readWord (character :: rest) = some result) :
    result.2.length < (character :: rest).length := by
  unfold readWord at read
  split at read
  next braced equal =>
    obtain ⟨_, rfl⟩ := List.cons.inj equal
    obtain ⟨found, _⟩ := Option.filter_eq_some_iff.mp read
    exact Nat.lt_succ_of_lt (length_readBraced found)
  next quoted equal =>
    obtain ⟨_, rfl⟩ := List.cons.inj equal
    exact Nat.lt_succ_of_lt (length_readQuoted read)
  next =>
    obtain rfl := Option.some.inj read
    exact length_readBare_cons solid rest

/-- The words of a list, if all of them can be read. -/
def readAll : List Char → Option (List (List Char))
  | [] => some []
  | first :: rest =>
      if _blank : isSpace first then readAll rest
      else
        match _found : readWord (first :: rest) with
        | none => none
        | some (word, behind) => (readAll behind).map (word :: ·)
termination_by characters => characters.length
decreasing_by
  · exact Nat.lt_succ_self _
  · exact length_readWord (eq_false_of_ne_true _blank) _found

@[simp] theorem readAll_nil : readAll [] = some [] := by rw [readAll]

theorem readAll_space {character : Char} (blank : isSpace character = true) (rest : List Char) :
    readAll (character :: rest) = readAll rest := by
  rw [readAll, dif_pos blank]

theorem readAll_word {first : Char} {rest word behind : List Char}
    (solid : isSpace first = false) (found : readWord (first :: rest) = some (word, behind)) :
    readAll (first :: rest) = (readAll behind).map (word :: ·) := by
  rw [readAll, dif_neg (by simp [solid])]
  split <;> simp_all

def read (text : String) : Option (List String) :=
  (readAll text.toList).map (List.map String.ofList)

end CommandWords.ListReader
