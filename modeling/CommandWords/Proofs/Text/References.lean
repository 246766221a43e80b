/-
This file shows that a replacement stands as it is exactly if no dollar sign in it is a reference,
and that this can still be told when something behind it was replaced.
-/

import CommandWords.Proofs.Text.FirstOccurrence

namespace CommandWords.Text

variable {pattern before after text rest : List Char} {character : Char}

/-- The signs that refer to something behind a dollar sign. -/
def signs : List Char := ['$', '&', '\x60', '\x27']

/-- A text without a reference. -/
def Plain (text : List Char) : Prop :=
  ∀ sign ∈ signs, ¬ ['$', sign] <:+: text

instance (text : List Char) : Decidable (Plain text) :=
  List.decidableBAll _ signs

theorem plain_nil : Plain [] := by
  intro sign _ inside
  simp at inside

theorem plain_cons_iff :
    Plain (character :: text) ↔ (∀ sign ∈ signs, ¬ ['$', sign] <+: character :: text) ∧
      Plain text := by
  simp only [Plain, List.infix_cons_iff, not_or, imp_and, forall_and]

theorem plain_of_not_mem (absent : '$' ∉ text) : Plain text :=
  fun _ _ inside => absent (inside.subset (by simp))

theorem not_plain_of_reference {sign : Char} (referring : sign ∈ signs) :
    ¬ Plain ('$' :: sign :: text) :=
  fun plain => plain sign referring (List.prefix_append ['$', sign] text).isInfix

theorem expand_of_plain (plain : Plain text) : expand pattern before after text = text := by
  fun_induction expand pattern before after text with
  | case1 rest inductionHypothesis => exact absurd plain (not_plain_of_reference (by decide))
  | case2 rest inductionHypothesis => exact absurd plain (not_plain_of_reference (by decide))
  | case3 rest inductionHypothesis => exact absurd plain (not_plain_of_reference (by decide))
  | case4 rest inductionHypothesis => exact absurd plain (not_plain_of_reference (by decide))
  | case5 character rest _ _ _ _ inductionHypothesis =>
      rw [inductionHypothesis (plain_cons_iff.mp plain).2]
  | case6 => rfl

section

variable {replacement : List Char} (plain : Plain replacement)

include plain

theorem replaceFirst_of_plain (text pattern : List Char) :
    replaceFirst text pattern replacement =
      match splitAtFirst? pattern text with
      | some (before, after) => before ++ replacement ++ after
      | none => text := by
  unfold replaceFirst
  cases splitAtFirst? pattern text with
  | none => rfl
  | some parts => simp only [expand_of_plain plain]

theorem replaceFirst_self (nonempty : pattern ≠ []) (rest : List Char) :
    replaceFirst (pattern ++ rest) pattern replacement = replacement ++ rest := by
  rw [replaceFirst_of_plain plain, splitAtFirst?_self nonempty]
  rfl

theorem replaceFirst_cons (unlike : ¬ pattern <+: character :: rest) :
    replaceFirst (character :: rest) pattern replacement =
      character :: replaceFirst rest pattern replacement := by
  rw [replaceFirst_of_plain plain, replaceFirst_of_plain plain, splitAtFirst?_cons unlike]
  cases splitAtFirst? pattern rest <;> rfl

theorem replaceFirst_append_of_not_mem {first : Char} {others : List Char}
    (opens : pattern = first :: others) (absent : first ∉ text) (rest : List Char) :
    replaceFirst (text ++ rest) pattern replacement =
      text ++ replaceFirst rest pattern replacement := by
  rw [replaceFirst_of_plain plain, replaceFirst_of_plain plain,
    splitAtFirst?_append_of_not_mem opens absent]
  cases splitAtFirst? pattern rest <;> simp

end

/-- A character in front of a text makes no reference unless it is a dollar sign before a sign. -/
theorem Plain.cons (plain : Plain text)
    (lone : ∀ sign ∈ signs, ∀ rest, character = '$' → text = sign :: rest → False) :
    Plain (character :: text) := by
  refine plain_cons_iff.mpr ⟨?_, plain⟩
  rintro sign referring ⟨rest, same⟩
  obtain ⟨dollar, follows⟩ := List.cons.inj same
  exact lone sign referring rest dollar.symm follows.symm

/-- A part that does not begin with a sign. -/
def Unsigned (part : List Char) : Prop :=
  ∀ first ∈ part.head?, first ∉ signs

theorem unsigned_nil : Unsigned [] := by
  simp [Unsigned]

theorem unsigned_cons (outside : character ∉ signs) (rest : List Char) :
    Unsigned (character :: rest) := by
  simpa [Unsigned] using outside

/-- What is shown begins with the text, behind some signs, only if there are none of these and the
text is plain. -/
def ShowsPlain (shown text : List Char) : Prop :=
  ∀ marks rest, marks ⊆ signs → shown = marks ++ (text ++ rest) → marks = [] ∧ Plain text

namespace ShowsPlain

variable {shown part marks : List Char} {first sign : Char}

theorem ne_append (shows : ShowsPlain shown text) (marked : marks ⊆ signs)
    (nonempty : marks ≠ []) (rest : List Char) : shown ≠ marks ++ (text ++ rest) :=
  fun same => nonempty (shows marks rest marked same).1

theorem of_nil (text : List Char) : ShowsPlain [] text := by
  intro marks rest _ same
  obtain ⟨none, empty⟩ := List.append_eq_nil_iff.mp same.symm
  exact ⟨none, (List.append_eq_nil_iff.mp empty).1 ▸ plain_nil⟩

theorem marks_eq_nil {others : List Char} (unsigned : first ∉ signs) (marked : marks ⊆ signs)
    (same : first :: shown = marks ++ others) : marks = [] := by
  cases marks with
  | nil => rfl
  | cons mark marks => exact absurd ((List.cons.inj same).1 ▸ marked (by simp)) unsigned

theorem of_unsigned_nil (unsigned : first ∉ signs) (shown : List Char) :
    ShowsPlain (first :: shown) [] :=
  fun _ _ marked same => ⟨marks_eq_nil unsigned marked same, plain_nil⟩

/-- A character that is no sign is not taken for a dollar sign. -/
theorem of_unsigned (unsigned : first ∉ signs) (shown text : List Char) :
    ShowsPlain (first :: shown) ('$' :: text) := by
  intro marks rest marked same
  obtain rfl := marks_eq_nil unsigned marked same
  exact absurd ((List.cons.inj same).1 ▸ by decide) unsigned

/-- What a reference stands for cannot make up for the reference itself. -/
theorem reference (shows : ShowsPlain shown text) (unsigned : Unsigned part)
    (referring : sign ∈ signs) : ShowsPlain (part ++ shown) ('$' :: sign :: text) := by
  cases part with
  | cons first others => exact of_unsigned (unsigned first rfl) _ _
  | nil =>
      intro marks rest marked same
      have reference : ['$', sign] ⊆ signs :=
        List.cons_subset.mpr ⟨by decide, List.cons_subset.mpr ⟨referring, List.nil_subset _⟩⟩
      refine absurd ?_
        (shows.ne_append (List.append_subset.mpr ⟨marked, reference⟩) (by simp) rest)
      simpa using same

/-- One dollar sign cannot make up for two. -/
theorem dollars (shows : ShowsPlain shown text) :
    ShowsPlain ('$' :: shown) ('$' :: '$' :: text) := by
  intro marks rest marked same
  cases marks with
  | nil =>
      have dollar : ['$'] ⊆ signs := by decide
      exact absurd (List.cons.inj same).2 (shows.ne_append dollar (by simp) rest)
  | cons mark marks =>
      have others := (List.cons_subset.mp marked).2
      have dollars : ['$', '$'] ⊆ signs := by decide
      refine absurd ?_
        (shows.ne_append (List.append_subset.mpr ⟨others, dollars⟩) (by simp) rest)
      simpa using (List.cons.inj same).2

theorem cons (shows : ShowsPlain shown text)
    (lone : ∀ sign ∈ signs, ∀ rest, character = '$' → text = sign :: rest → False) :
    ShowsPlain (character :: shown) (character :: text) := by
  intro marks rest marked same
  cases marks with
  | nil => exact ⟨rfl, (shows [] rest (by simp) (List.cons.inj same).2).2.cons lone⟩
  | cons mark marks =>
      obtain ⟨known, others⟩ := List.cons_subset.mp marked
      obtain ⟨rfl, behind⟩ := List.cons.inj same
      have grown : marks ++ [character] ⊆ signs := by simp [others, known]
      refine absurd ?_ (shows.ne_append grown (by simp) rest)
      simpa using behind

end ShowsPlain

/-- A character that an expansion keeps is no dollar sign before a sign. -/
theorem lone_of_kept (dollar : ∀ rest, character = '$' → text = '$' :: rest → False)
    (ampersand : ∀ rest, character = '$' → text = '&' :: rest → False)
    (backtick : ∀ rest, character = '$' → text = '\x60' :: rest → False)
    (apostrophe : ∀ rest, character = '$' → text = '\x27' :: rest → False) :
    ∀ sign ∈ signs, ∀ rest, character = '$' → text = sign :: rest → False := by
  simp only [signs, List.forall_mem_cons]
  exact ⟨dollar, ampersand, backtick, apostrophe, by simp⟩

/-- An expansion that leaves a text as it is finds no reference in it. -/
theorem showsPlain_expand (patternUnsigned : Unsigned pattern) (beforeUnsigned : Unsigned before)
    (afterUnsigned : Unsigned after) (text : List Char) :
    ShowsPlain (expand pattern before after text) text := by
  fun_induction expand pattern before after text with
  | case1 rest shows => exact shows.dollars
  | case2 rest shows => exact shows.reference patternUnsigned (by decide)
  | case3 rest shows => exact shows.reference beforeUnsigned (by decide)
  | case4 rest shows => exact shows.reference afterUnsigned (by decide)
  | case5 character rest dollar ampersand backtick apostrophe shows =>
      exact shows.cons (lone_of_kept dollar ampersand backtick apostrophe)
  | case6 => exact .of_nil []

theorem expand_eq_self_iff (patternUnsigned : Unsigned pattern)
    (beforeUnsigned : Unsigned before) (afterUnsigned : Unsigned after) :
    expand pattern before after text = text ↔ Plain text := by
  have shows := showsPlain_expand patternUnsigned beforeUnsigned afterUnsigned text
  exact ⟨fun same => (shows [] [] (List.nil_subset _) (by simpa using same)).2, expand_of_plain⟩

/-- A part of a text in which a target cannot begin, neither as a whole nor with its rest. -/
structure Closed (target part : List Char) : Prop where
  opens : ∃ first others, part = first :: others ∧ first ∉ signs ∧ first ∉ target.tail
  unlike : ∀ rest, ¬ target <+: part ++ rest

namespace Closed

variable {target part front back shown : List Char}

theorem exists_cons (closed : Closed target part) :
    ∃ first others, target = first :: others := by
  refine List.exists_cons_of_ne_nil ?_
  rintro rfl
  exact closed.unlike [] List.nil_prefix

/-- A target that differs from a part at the start does not begin in it. -/
theorem of_take {first : Char} {others : List Char} (unsigned : first ∉ signs)
    (outside : first ∉ target.tail) (count : Nat) (long : count ≤ target.length)
    (within : count ≤ (first :: others).length)
    (differ : target.take count ≠ (first :: others).take count) :
    Closed target (first :: others) where
  opens := ⟨first, others, rfl, unsigned, outside⟩
  unlike rest begins := by
    apply differ
    obtain ⟨behind, same⟩ := begins
    have start := congrArg (List.take count) same
    rwa [List.take_append_of_le_length long, List.take_append_of_le_length within] at start

/-- An occurrence of the target begins behind the first character of a closed part. -/
theorem front_eq (closed : Closed target part) (found : part ++ rest = front ++ target ++ back) :
    ∃ first others, front = first :: others ∧ first ∉ signs := by
  obtain ⟨first, others, rfl, unsigned, _⟩ := closed.opens
  cases front with
  | nil => exact absurd ⟨back, found.symm⟩ (closed.unlike rest)
  | cons character front =>
      obtain rfl := (List.cons.inj found).1
      exact ⟨first, front, rfl, unsigned⟩

/-- The rest of an occurrence does not reach into a closed part. -/
theorem eq_nil_of_begins {begun : List Char} (closed : Closed target part)
    (within : begun ⊆ target.tail) (begins : begun <+: part ++ rest) : begun = [] := by
  obtain ⟨first, others, rfl, _, outside⟩ := closed.opens
  cases begun with
  | nil => rfl
  | cons character begun =>
      obtain rfl := (List.cons_prefix_cons.mp begins).1
      exact absurd (within (by simp)) outside

theorem showsPlain {sign : Char} (closed : Closed target part)
    (found : part ++ rest = front ++ target ++ back) (shown text : List Char) :
    ShowsPlain (front ++ shown) ('$' :: sign :: text) := by
  obtain ⟨first, others, rfl, unsigned⟩ := closed.front_eq found
  exact .of_unsigned unsigned _ _

end Closed

section

variable {target tail front back begun : List Char} (patternClosed : Closed target pattern)
  (beforeClosed : Closed target before) (afterClosed : Closed target after)
  (tailClosed : Closed target tail) (dollarless : '$' ∉ target)

include patternClosed beforeClosed afterClosed tailClosed dollarless

/-- What an occurrence of the target takes from an expansion is kept from the text. -/
theorem prefix_of_prefix_expand (within : begun ⊆ target.tail)
    (begins : begun <+: expand pattern before after text ++ tail) : begun <+: text := by
  fun_induction expand pattern before after text generalizing begun with
  | case1 rest inductionHypothesis =>
      cases begun with
      | nil => exact List.nil_prefix
      | cons first others =>
          obtain ⟨rfl, _⟩ := List.cons_prefix_cons.mp begins
          exact absurd (List.mem_of_mem_tail (within (by simp))) dollarless
  | case2 rest inductionHypothesis =>
      rw [List.append_assoc] at begins
      exact patternClosed.eq_nil_of_begins within begins ▸ List.nil_prefix
  | case3 rest inductionHypothesis =>
      rw [List.append_assoc] at begins
      exact beforeClosed.eq_nil_of_begins within begins ▸ List.nil_prefix
  | case4 rest inductionHypothesis =>
      rw [List.append_assoc] at begins
      exact afterClosed.eq_nil_of_begins within begins ▸ List.nil_prefix
  | case5 character rest _ _ _ _ inductionHypothesis =>
      cases begun with
      | nil => exact List.nil_prefix
      | cons first others =>
          obtain ⟨rfl, continues⟩ := List.cons_prefix_cons.mp begins
          have kept := inductionHypothesis (List.cons_subset.mp within).2 continues
          exact List.cons_prefix_cons.mpr ⟨rfl, kept⟩
  | case6 =>
      rw [← List.append_nil tail, List.nil_append] at begins
      exact tailClosed.eq_nil_of_begins within begins ▸ List.nil_prefix

/-- A text that does not hold the target is shown in front of it only if it is plain. -/
theorem showsPlain_front (missing : ¬ target <:+: text)
    (found : expand pattern before after text ++ tail = front ++ target ++ back)
    (shown : List Char) : ShowsPlain (front ++ shown) text := by
  obtain ⟨opening, others, whole⟩ := tailClosed.exists_cons
  fun_induction expand pattern before after text generalizing front with
  | case1 rest inductionHypothesis =>
      rw [List.infix_cons_iff, List.infix_cons_iff, not_or, not_or] at missing
      cases front with
      | nil =>
          rw [whole] at found
          obtain ⟨rfl, _⟩ := List.cons.inj found
          exact absurd (whole ▸ by simp) dollarless
      | cons character front =>
          obtain ⟨rfl, continued⟩ := List.cons.inj found
          exact (inductionHypothesis missing.2.2 continued).dollars
  | case2 rest inductionHypothesis =>
      rw [List.append_assoc] at found
      exact patternClosed.showsPlain found _ _
  | case3 rest inductionHypothesis =>
      rw [List.append_assoc] at found
      exact beforeClosed.showsPlain found _ _
  | case4 rest inductionHypothesis =>
      rw [List.append_assoc] at found
      exact afterClosed.showsPlain found _ _
  | case5 character rest dollar ampersand backtick apostrophe inductionHypothesis =>
      rw [List.infix_cons_iff, not_or] at missing
      cases front with
      | nil =>
          -- The target would begin with a character of the text and so stand in the text.
          rw [whole] at found
          obtain ⟨rfl, continued⟩ := List.cons.inj found
          have kept : others <+: rest :=
            prefix_of_prefix_expand patternClosed beforeClosed afterClosed tailClosed dollarless
              (by rw [whole, List.tail_cons]; exact List.Subset.refl _) ⟨back, continued.symm⟩
          exact absurd (whole ▸ List.cons_prefix_cons.mpr ⟨rfl, kept⟩) missing.1
      | cons first front =>
          obtain ⟨rfl, continued⟩ := List.cons.inj found
          exact (inductionHypothesis missing.2 continued).cons
            (lone_of_kept dollar ampersand backtick apostrophe)
  | case6 =>
      rw [← List.append_nil tail, List.nil_append] at found
      obtain ⟨first, others, rfl, unsigned⟩ := tailClosed.front_eq found
      exact .of_unsigned_nil unsigned _

end

end CommandWords.Text
