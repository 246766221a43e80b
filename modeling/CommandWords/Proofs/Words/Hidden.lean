/-
This file counts the braces of a word as a list reader sees them. A backslash hides the character
behind it, and hidden braces do not count. Braces hold a word exactly when its scan does not refuse
them.
-/

import CommandWords.Proofs.Words.Marks

namespace CommandWords.ListElement

/-- A character is hidden when it directly follows a backslash that is not hidden itself. -/
def isHidden (characters : List Char) : Nat → Bool
  | 0 => false
  | position + 1 => characters[position]? = some '\\' && !isHidden characters position

theorem isHidden_iff {characters : List Char} {position : Nat} :
    isHidden characters (position + 1) = true ↔
      characters[position]? = some '\\' ∧ isHidden characters position = false := by
  simp [isHidden]

/-- The count of open braces changes by this number at a character that is not hidden. -/
def braceWeight (character : Char) : Int :=
  if character = '\x7b' then 1 else if character = '\x7d' then -1 else 0

/-- The braces that are open behind the first characters. -/
def level (characters : List Char) : Nat → Int
  | 0 => 0
  | position + 1 =>
      level characters position +
        if isHidden characters position then 0
        else ((characters[position]?).map braceWeight).getD 0

theorem isHidden_append_of_le (first second : List Char) {position : Nat}
    (within : position ≤ first.length) :
    isHidden (first ++ second) position = isHidden first position := by
  induction position with
  | zero => rfl
  | succ position inductionHypothesis =>
      rw [isHidden, isHidden, List.getElem?_append_left within,
        inductionHypothesis (Nat.le_of_succ_le within)]

theorem level_append_of_le (first second : List Char) {position : Nat}
    (within : position ≤ first.length) :
    level (first ++ second) position = level first position := by
  induction position with
  | zero => rfl
  | succ position inductionHypothesis =>
      have before := Nat.le_of_succ_le within
      rw [level, level, List.getElem?_append_left within, isHidden_append_of_le _ _ before,
        inductionHypothesis before]

section Behind

variable {first : List Char} (ended : isHidden first first.length = false)
include ended

/-- Characters that hide nothing behind them change nothing about what is hidden there. -/
theorem isHidden_append (second : List Char) (position : Nat) :
    isHidden (first ++ second) (first.length + position) = isHidden second position := by
  induction position with
  | zero =>
      rw [Nat.add_zero, isHidden_append_of_le _ _ (Nat.le_refl _), ended]
      rfl
  | succ position inductionHypothesis =>
      rw [← Nat.add_assoc, isHidden, isHidden, inductionHypothesis,
        List.getElem?_append_right (Nat.le_add_right _ _), Nat.add_sub_cancel_left]

theorem level_append (second : List Char) (position : Nat) :
    level (first ++ second) (first.length + position) =
      level first first.length + level second position := by
  induction position with
  | zero =>
      rw [Nat.add_zero, level_append_of_le _ _ (Nat.le_refl _)]
      exact (Int.add_zero _).symm
  | succ position inductionHypothesis =>
      rw [← Nat.add_assoc, level, level, inductionHypothesis, isHidden_append ended,
        List.getElem?_append_right (Nat.le_add_right _ _), Nat.add_sub_cancel_left, Int.add_assoc]

/-- A character of two parts is hidden when it is hidden in its own part. -/
theorem getElem?_append_cases {second : List Char} {position : Nat} {character : Char}
    (found : (first ++ second)[position]? = some character) :
    (first[position]? = some character ∧
        isHidden (first ++ second) position = isHidden first position) ∨
      ∃ rest, position = first.length + rest ∧ second[rest]? = some character ∧
        isHidden (first ++ second) position = isHidden second rest := by
  rcases Nat.lt_or_ge position first.length with inFirst | beyond
  · left
    rw [List.getElem?_append_left inFirst] at found
    exact ⟨found, isHidden_append_of_le _ _ (Nat.le_of_lt inFirst)⟩
  · right
    obtain ⟨rest, rfl⟩ := Nat.exists_eq_add_of_le beyond
    rw [List.getElem?_append_right beyond, Nat.add_sub_cancel_left] at found
    exact ⟨rest, rfl, found, isHidden_append ended second rest⟩

end Behind

/-- Behind the last character nothing is hidden, except by a backslash that stands there. -/
theorem lt_of_isHidden {characters : List Char}
    (ended : isHidden characters characters.length = false) {position : Nat}
    (hidden : isHidden characters position = true) : position < characters.length := by
  cases position with
  | zero => cases hidden
  | succ position =>
      obtain ⟨within, _⟩ := List.getElem?_eq_some_iff.mp (isHidden_iff.mp hidden).1
      apply Nat.lt_of_le_of_ne within
      intro last
      rw [← last, hidden] at ended
      contradiction

/-- The depth counts the braces that are open in front of these characters. The characters never
close more braces than are open, and they hide no line end and nothing behind them. -/
structure Keeps (depth : Int) (characters : List Char) : Prop where
  inside : ∀ position, position ≤ characters.length → 0 ≤ depth + level characters position
  ended : isHidden characters characters.length = false
  oneLine : ∀ position, isHidden characters position = true → characters[position]? ≠ some '\n'

/-- Braces hold a word that keeps them balanced and closes every brace it opens. -/
structure Holds (depth : Int) (word : List Char) : Prop extends Keeps depth word where
  settled : depth + level word word.length = 0

/-- The characters never close more braces than are open, and at the end they have closed all. -/
structure Settles (depth : Int) (characters : List Char) : Prop where
  inside : ∀ position, position ≤ characters.length → 0 ≤ depth + level characters position
  ended : isHidden characters characters.length = false
  settled : depth + level characters characters.length = 0

/-- No backslash hides a line end. -/
def OneLine (word : List Char) : Prop :=
  ∀ position, word[position]? = some '\\' → isHidden word position = false →
    word[position + 1]? ≠ some '\n'

theorem oneLine_iff {word : List Char} :
    OneLine word ↔
      ∀ position, isHidden word position = true → word[position]? ≠ some '\n' := by
  constructor
  · intro line position hidden
    cases position with
    | zero => cases hidden
    | succ position =>
        obtain ⟨escape, bare⟩ := isHidden_iff.mp hidden
        exact line position escape bare
  · intro line position escape bare
    exact line (position + 1) (isHidden_iff.mpr ⟨escape, bare⟩)

theorem holds_iff {depth : Int} {word : List Char} :
    Holds depth word ↔ Settles depth word ∧ OneLine word := by
  rw [oneLine_iff]
  constructor
  · intro holds
    exact ⟨⟨holds.inside, holds.ended, holds.settled⟩, holds.oneLine⟩
  · rintro ⟨settles, line⟩
    exact ⟨⟨settles.inside, settles.ended, line⟩, settles.settled⟩

section Behind

variable {first : List Char} (ended : isHidden first first.length = false)
include ended

theorem oneLine_append (second : List Char) :
    OneLine (first ++ second) ↔ OneLine first ∧ OneLine second := by
  simp only [oneLine_iff]
  constructor
  · intro line
    constructor
    · intro position hidden
      have within := lt_of_isHidden ended hidden
      rw [← isHidden_append_of_le first second (Nat.le_of_lt within)] at hidden
      rw [← List.getElem?_append_left within]
      exact line position hidden
    · intro position hidden
      rw [← isHidden_append ended] at hidden
      have later := line _ hidden
      rwa [List.getElem?_append_right (Nat.le_add_right _ _), Nat.add_sub_cancel_left] at later
  · rintro ⟨before, behind⟩ position hidden line
    rcases getElem?_append_cases ended line with ⟨found, same⟩ | ⟨rest, _, found, same⟩
    · exact before position (same ▸ hidden) found
    · exact behind rest (same ▸ hidden) found

theorem settles_append {depth : Int} (second : List Char) :
    Settles depth (first ++ second) ↔
      (∀ position, position ≤ first.length → 0 ≤ depth + level first position) ∧
        Settles (depth + level first first.length) second := by
  have last := isHidden_append ended second second.length
  have total : depth + level (first ++ second) (first ++ second).length =
      depth + level first first.length + level second second.length := by
    rw [List.length_append, level_append ended, Int.add_assoc]
  rw [← List.length_append] at last
  constructor
  · intro settles
    refine ⟨?_, ⟨?_, last ▸ settles.ended, total ▸ settles.settled⟩⟩
    · intro position within
      rw [← level_append_of_le first second within]
      exact settles.inside position (by rw [List.length_append]; omega)
    · intro position within
      rw [Int.add_assoc, ← level_append ended]
      exact settles.inside _ (by rw [List.length_append]; omega)
  · rintro ⟨before, behind⟩
    refine ⟨?_, last.trans behind.ended, total.trans behind.settled⟩
    intro position within
    rw [List.length_append] at within
    rcases Nat.le_total position first.length with inFirst | beyond
    · rw [level_append_of_le _ _ inFirst]
      exact before position inFirst
    · obtain ⟨rest, rfl⟩ := Nat.exists_eq_add_of_le beyond
      rw [level_append ended, ← Int.add_assoc]
      exact behind.inside rest (by omega)

end Behind

theorem settles_nil {depth : Int} : Settles depth [] ↔ depth = 0 := by
  constructor
  · intro settles
    simpa [level] using settles.settled
  · rintro rfl
    refine ⟨?_, rfl, rfl⟩
    intro position within
    obtain rfl := Nat.le_zero.mp within
    exact Int.le_refl 0

theorem isHidden_single {character : Char} (plain : character ≠ '\\') :
    isHidden [character] [character].length = false := by
  simp [isHidden, plain]

theorem level_single (character : Char) :
    level [character] [character].length = braceWeight character := by
  simp [level, isHidden]

theorem settles_cons {depth : Int} (deep : 0 ≤ depth) {character : Char}
    (plain : character ≠ '\\') (rest : List Char) :
    Settles depth (character :: rest) ↔ Settles (depth + braceWeight character) rest := by
  rw [← List.singleton_append, settles_append (isHidden_single plain), level_single,
    and_iff_right_iff_imp]
  intro behind position within
  have deeper := behind.inside 0 (Nat.zero_le _)
  rw [List.length_singleton] at within
  obtain rfl | rfl : position = 0 ∨ position = 1 := by omega
  · simpa [level] using deep
  · simpa [level, isHidden] using deeper

theorem oneLine_cons {character : Char} (plain : character ≠ '\\') (rest : List Char) :
    OneLine (character :: rest) ↔ OneLine rest := by
  rw [← List.singleton_append, oneLine_append (isHidden_single plain), and_iff_right_iff_imp]
  intro _ position escape
  exact absurd (List.mem_singleton.mp (List.mem_of_getElem? escape)).symm plain

theorem isHidden_pair (hidden : Char) :
    isHidden ['\\', hidden] ['\\', hidden].length = false := by
  simp [isHidden]

theorem settles_pair {depth : Int} (deep : 0 ≤ depth) (hidden : Char) (rest : List Char) :
    Settles depth ('\\' :: hidden :: rest) ↔ Settles depth rest := by
  have flat : depth + level ['\\', hidden] ['\\', hidden].length = depth := Int.add_zero depth
  have parts : Settles depth (['\\', hidden] ++ rest) ↔ _ :=
    settles_append (isHidden_pair hidden) rest
  rw [flat] at parts
  refine parts.trans (and_iff_right ?_)
  intro position within
  change position ≤ 2 at within
  obtain rfl | rfl | rfl : position = 0 ∨ position = 1 ∨ position = 2 := by omega
  all_goals simpa [level, isHidden, braceWeight] using deep

theorem oneLine_pair (hidden : Char) (rest : List Char) :
    OneLine ('\\' :: hidden :: rest) ↔ hidden ≠ '\n' ∧ OneLine rest := by
  have parts : OneLine (['\\', hidden] ++ rest) ↔ _ := oneLine_append (isHidden_pair hidden) rest
  refine parts.trans (and_congr_left fun _ => ⟨?_, ?_⟩)
  · rintro line rfl
    exact line 0 rfl rfl rfl
  · rintro line position escape bare
    have within : position < 2 := (List.getElem?_eq_some_iff.mp escape).1
    obtain rfl | rfl : position = 0 ∨ position = 1 := by omega
    · simpa using line
    · cases bare

@[simp] theorem not_settles_backslash {depth : Int} : ¬ Settles depth ['\\'] := by
  intro settles
  have ended := settles.ended
  contradiction

theorem holds_nil {depth : Int} : Holds depth [] ↔ depth = 0 := by
  rw [holds_iff, settles_nil, and_iff_left_iff_imp]
  intro _ position
  simp

theorem holds_cons {depth : Int} (deep : 0 ≤ depth) {character : Char}
    (plain : character ≠ '\\') (rest : List Char) :
    Holds depth (character :: rest) ↔ Holds (depth + braceWeight character) rest := by
  rw [holds_iff, holds_iff, settles_cons deep plain, oneLine_cons plain]

theorem holds_pair {depth : Int} (deep : 0 ≤ depth) (hidden : Char) (rest : List Char) :
    Holds depth ('\\' :: hidden :: rest) ↔ hidden ≠ '\n' ∧ Holds depth rest := by
  rw [holds_iff, holds_iff, settles_pair deep, oneLine_pair, and_left_comm]

@[simp] theorem not_holds_backslash {depth : Int} : ¬ Holds depth ['\\'] := by
  simp [holds_iff]

/-- A scan that starts inside open braces refuses braces exactly when they cannot hold the word. -/
theorem accepts_scanFrom_iff {depth : Int} (deep : 0 ≤ depth) (flags : Flags) (word : List Char) :
    (scanFrom depth flags word).refusesBraces = false ↔
      flags.refusesBraces = false ∧ Holds depth word := by
  fun_induction scanFrom depth flags word with
  | case1 => simp [holds_nil]
  | case2 _ _ unsettled => simp [holds_nil, unsettled]
  | case3 => simp
  | case4 _ flags rest _ =>
      simp [holds_pair deep, refusesBraces_scanFrom _ _ _ (refusesBraces_broken flags)]
  | case5 _ _ _ _ line inductionHypothesis =>
      rw [inductionHypothesis deep, holds_pair deep]
      simp [line]
  | case6 depth _ rest _ _ inductionHypothesis =>
      rw [inductionHypothesis (by omega), holds_cons deep (by decide)]
      rfl
  | case7 depth flags rest _ _ _ inductionHypothesis =>
      rw [holds_cons deep (by decide)]
      have closing : braceWeight '\x7d' = -1 := rfl
      by_cases early : depth - 1 < 0
      · rw [if_pos early, refusesBraces_scanFrom _ _ _ (refusesBraces_broken flags)]
        constructor
        · simp
        · rintro ⟨_, behind⟩
          have inside := behind.inside 0 (Nat.zero_le _)
          simp only [level] at inside
          omega
      · rw [inductionHypothesis (by omega), if_neg early, closing]
        rfl
  | case8 _ _ character _ alone paired opening closing _ inductionHypothesis =>
      have weightless : braceWeight character = 0 := by simp [braceWeight, opening, closing]
      rw [inductionHypothesis deep, holds_cons deep (no_backslash alone paired), weightless,
        Int.add_zero, refusesBraces_braced]
  | case9 _ _ character _ alone paired opening closing _ inductionHypothesis =>
      have weightless : braceWeight character = 0 := by simp [braceWeight, opening, closing]
      rw [inductionHypothesis deep, holds_cons deep (no_backslash alone paired), weightless,
        Int.add_zero]

theorem accepts_scanCharacters_iff (word : List Char) :
    (scanCharacters word).refusesBraces = false ↔ Holds 0 word := by
  cases word with
  | nil => simp [scanCharacters, Flags.plain, holds_nil]
  | cons first rest =>
      rw [scanCharacters, accepts_scanFrom_iff (Int.le_refl 0), and_iff_right_iff_imp]
      intro _
      split <;> rfl

/-- The brace in front is closed by the last character and by no character before it. -/
structure ClosedAtEnd (written : List Char) : Prop where
  opened : ∀ position, 0 < position → position < written.length → 0 < level written position
  closed : level written written.length = 0

section Braced

variable (word : List Char)

theorem braceCharacters_eq : braceCharacters word = ['\x7b'] ++ (word ++ ['\x7d']) := rfl

theorem length_braceCharacters : (braceCharacters word).length = word.length + 1 + 1 := by
  simp [braceCharacters]

variable {position : Nat} (within : position ≤ word.length)
include within

theorem isHidden_braceCharacters :
    isHidden (braceCharacters word) (position + 1) = isHidden word position := by
  have opening : isHidden ['\x7b'] ['\x7b'].length = false := isHidden_single (by decide)
  have behind := isHidden_append opening (word ++ ['\x7d']) position
  rwa [isHidden_append_of_le _ _ within, ← braceCharacters_eq, Nat.add_comm] at behind

theorem level_braceCharacters :
    level (braceCharacters word) (position + 1) = 1 + level word position := by
  have opening : isHidden ['\x7b'] ['\x7b'].length = false := isHidden_single (by decide)
  have behind := level_append opening (word ++ ['\x7d']) position
  rwa [level_append_of_le _ _ within, ← braceCharacters_eq, Nat.add_comm] at behind

end Braced

theorem level_length_braceCharacters (word : List Char) :
    level (braceCharacters word) (braceCharacters word).length =
      1 + level word word.length + if isHidden word word.length then 0 else -1 := by
  have closing : (braceCharacters word)[word.length + 1]? = some '\x7d' := by
    simp [braceCharacters]
  rw [length_braceCharacters, level, level_braceCharacters word (Nat.le_refl _),
    isHidden_braceCharacters word (Nat.le_refl _), closing]
  rfl

/-- A word in braces is closed at its end exactly when the word settles its own braces. -/
theorem closedAtEnd_iff {word : List Char} :
    ClosedAtEnd (braceCharacters word) ↔ Settles 0 word := by
  have last := level_length_braceCharacters word
  constructor
  · intro closedAtEnd
    have inside : ∀ position, position ≤ word.length → 0 ≤ 0 + level word position := by
      intro position within
      have opened := closedAtEnd.opened (position + 1) (Nat.succ_pos _)
        (by rw [length_braceCharacters]; omega)
      rw [level_braceCharacters word within] at opened
      omega
    have total := inside word.length (Nat.le_refl _)
    rw [closedAtEnd.closed] at last
    split at last
    next => omega
    next bare => exact ⟨inside, eq_false_of_ne_true bare, by omega⟩
  · intro settles
    constructor
    · intro position positive within
      obtain ⟨position, rfl⟩ := Nat.exists_eq_add_of_lt positive
      rw [length_braceCharacters] at within
      have inside := settles.inside position (by omega)
      rw [Nat.zero_add, level_braceCharacters word (by omega)]
      omega
    · have settled := settles.settled
      rw [last, settles.ended]
      simp only [Bool.false_eq_true, if_false]
      omega

/-- Braces hold a word exactly when the brace in front of it is closed by the brace behind it and
no backslash hides a line end. -/
theorem holds_iff_closedAtEnd {word : List Char} :
    Holds 0 word ↔ ClosedAtEnd (braceCharacters word) ∧ OneLine word := by
  rw [holds_iff, closedAtEnd_iff]

/-- Both flags are raised together. -/
theorem unbalanced_scanCharacters (word : List Char) :
    (scanCharacters word).unbalanced = (scanCharacters word).refusesBraces := by
  have together := scanFrom_keeps fun flags => flags.unbalanced = flags.refusesBraces
  cases word with
  | nil => rfl
  | cons first rest =>
      apply together
      · exact fun _ same => same
      · exact fun _ _ => rfl
      · split <;> rfl

/-- A word refuses braces exactly when a backslash of it hides a line end, or when the brace in
front of it is not closed by the brace behind it and no earlier. Both flags say the same. -/
theorem refusesBraces_iff (word : String) :
    ((scan word).refusesBraces = true ↔
      (∃ position, word.toList[position]? = some '\\' ∧
        isHidden word.toList position = false ∧ word.toList[position + 1]? = some '\n') ∨
        ¬ ClosedAtEnd (braceCharacters word.toList)) ∧
      (scan word).unbalanced = (scan word).refusesBraces := by
  refine ⟨?_, unbalanced_scanCharacters word.toList⟩
  have accepts : (scan word).refusesBraces = false ↔ _ :=
    (accepts_scanCharacters_iff word.toList).trans holds_iff_closedAtEnd
  have hides : ¬ OneLine word.toList ↔ ∃ position, word.toList[position]? = some '\\' ∧
      isHidden word.toList position = false ∧ word.toList[position + 1]? = some '\n' := by
    simp only [OneLine, Classical.not_forall, Classical.not_not, exists_prop]
  rw [← Bool.not_eq_false, accepts, Classical.not_and_iff_not_or_not, or_comm, hides]

end CommandWords.ListElement
