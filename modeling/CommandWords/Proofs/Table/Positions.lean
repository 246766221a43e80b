/-
This file shows that the keywords of a table stand where their positions say, so that reading one
keyword from its slot agrees with reading all of them.
-/

import CommandWords.Table.Keywords

namespace CommandWords

namespace Number

/-- Only a positive natural number itself equals it. -/
theorem equals_natural {value : Nat} (positive : 0 < value) {other : Number} :
    (natural value).equals other = true ↔ other = natural value := by
  have scaled : 0 < value * unit := Nat.mul_pos positive unit_pos
  rw [natural]
  generalize value * unit = units at scaled
  cases other with
  | nan => simp [equals, compare?]
  | infinite negative => cases negative <;> simp [equals, compare?]
  | finite negative magnitude =>
      rw [equals, compare?, beq_iff_eq, Option.some.injEq, Std.LawfulEqCmp.compare_eq_iff_eq,
        finite.injEq]
      cases negative with
      | true =>
          simp only [signedUnits]
          simp
          omega
      | false =>
          simp only [signedUnits]
          simp
          omega

end Number

namespace Table

theorem natural_of_isStride {stride : Number} (valid : isStride stride = true) :
    ∃ distance, stride = .natural distance ∧ 0 < distance := by
  obtain ⟨distance, found⟩ := Option.isSome_iff_exists.mp valid
  exact ⟨distance, distance?_eq_some.mp found⟩

/-- Keywords stand in the records from one on, up to the sentinel or the last record. -/
structure Fills (table : Table) (distance ordinal records : Nat) (keywords : List String) :
    Prop where
  entries : ∀ position (inside : position < keywords.length),
    table.entry distance (ordinal + position) = .keyword keywords[position]
  ended : keywords.length = records ∨
    keywords.length < records ∧ table.entry distance (ordinal + keywords.length) = .sentinel

theorem Fills.length_le {table : Table} {distance ordinal records : Nat} {keywords : List String}
    (fills : table.Fills distance ordinal records keywords) : keywords.length ≤ records := by
  rcases fills.ended with whole | ⟨within, _⟩
  · exact Nat.le_of_eq whole
  · exact Nat.le_of_lt within

theorem fills_nil_iff {table : Table} {distance ordinal records : Nat} :
    table.Fills distance ordinal records [] ↔
      records = 0 ∨ 0 < records ∧ table.entry distance ordinal = .sentinel := by
  constructor
  · intro fills
    exact fills.ended.imp Eq.symm id
  · intro ended
    exact ⟨fun position inside => absurd inside (Nat.not_lt_zero _), ended.imp Eq.symm id⟩

theorem fills_cons_iff {table : Table} {distance ordinal records : Nat} {text : String}
    {rest : List String} :
    table.Fills distance ordinal (records + 1) (text :: rest) ↔
      table.entry distance ordinal = .keyword text ∧
        table.Fills distance (ordinal + 1) records rest := by
  have moved : ∀ position, ordinal + (position + 1) = ordinal + 1 + position := by omega
  constructor
  · intro fills
    refine ⟨fills.entries 0 (Nat.succ_pos _), ?_, ?_⟩
    · intro position inside
      rw [← moved]
      exact fills.entries (position + 1) (Nat.succ_lt_succ inside)
    · rw [← moved]
      exact fills.ended.imp Nat.succ.inj fun ended => ⟨Nat.lt_of_succ_lt_succ ended.1, ended.2⟩
  · rintro ⟨here, fills⟩
    refine ⟨?_, ?_⟩
    · intro position inside
      cases position with
      | zero => exact here
      | succ position =>
          rw [moved, List.getElem_cons_succ]
          exact fills.entries position (Nat.lt_of_succ_lt_succ inside)
    · rw [List.length_cons, moved]
      exact fills.ended.imp (congrArg Nat.succ) fun ended => ⟨Nat.succ_lt_succ ended.1, ended.2⟩

/-- The keywords that are read are those that stand in the records. -/
theorem keywordsFrom_eq_ok_iff {table : Table} {distance ordinal records : Nat}
    {keywords : List String} :
    table.keywordsFrom distance ordinal records = .ok keywords ↔
      table.Fills distance ordinal records keywords := by
  induction records generalizing ordinal keywords with
  | zero =>
      rw [keywordsFrom, Except.ok.injEq]
      constructor
      · rintro rfl
        exact fills_nil_iff.mpr (.inl rfl)
      · intro fills
        exact (List.length_eq_zero_iff.mp (Nat.le_zero.mp fills.length_le)).symm
  | succ records inductionHypothesis =>
      rw [keywordsFrom]
      cases keywords with
      | nil =>
          rw [fills_nil_iff]
          cases here : table.entry distance ordinal with
          | sentinel => simp
          | other => simp
          | keyword text =>
              cases table.keywordsFrom distance (ordinal + 1) records <;> simp [Except.map]
      | cons text rest =>
          rw [fills_cons_iff, ← inductionHypothesis]
          cases here : table.entry distance ordinal with
          | sentinel => simp
          | other => simp
          | keyword found =>
              cases table.keywordsFrom distance (ordinal + 1) records <;> simp [Except.map]

variable {table : Table} {stride : Number} {keywords : List String} {effort : Effort}

/-- A table is read in whole if its stride is a positive integer and keywords fill it up to the
sentinel or its end. -/
theorem keywords_eq_done_iff :
    table.keywords stride = .done keywords effort ↔
      effort = .unknown ∧ ∃ distance, stride = .natural distance ∧ 0 < distance ∧
        table.Fills distance 0 (table.recordCount distance) keywords := by
  constructor
  · intro formed
    unfold Table.keywords at formed
    split at formed
    next => cases formed
    next distance found =>
      obtain ⟨equal, positive⟩ := distance?_eq_some.mp found
      split at formed
      next texts read =>
        cases formed
        exact ⟨rfl, distance, equal, positive, keywordsFrom_eq_ok_iff.mp read⟩
      next => cases formed
  · rintro ⟨rfl, distance, equal, positive, fills⟩
    rw [Table.keywords, distance?_eq_some.mpr ⟨equal, positive⟩]
    simp only [keywordsFrom_eq_ok_iff.mpr fills]

/-- A table that gives keywords is read in whole. -/
theorem keywords_of_result (given : (table.keywords stride).toExcept.toOption = some keywords) :
    table.keywords stride = .done keywords .unknown := by
  cases formed : table.keywords stride with
  | done found effort =>
      rw [formed] at given
      cases given
      rw [(keywords_eq_done_iff.mp formed).1]
  | fail failure effort =>
      rw [formed] at given
      cases given

/-- A table that is read in whole has a keyword in the entry of every position. -/
theorem entry_of_keywords (formed : table.keywords stride = .done keywords effort) :
    ∃ distance, stride = .natural distance ∧ 0 < distance ∧
      keywords.length ≤ table.recordCount distance ∧
        ∀ position (inside : position < keywords.length),
          table.entry distance position = .keyword keywords[position] := by
  obtain ⟨_, distance, equal, positive, fills⟩ := keywords_eq_done_iff.mp formed
  refine ⟨distance, equal, positive, fills.length_le, ?_⟩
  intro position inside
  have here := fills.entries position inside
  rwa [Nat.zero_add] at here

/-- A malformed table costs no comparisons. -/
theorem effort_of_malformed {failure : Failure Diagnostic}
    (unformed : table.keywords stride = .fail failure effort) : effort = .unknown := by
  unfold Table.keywords at unformed
  split at unformed
  next =>
    cases unformed
    rfl
  next distance found =>
    split at unformed
    next => cases unformed
    next =>
      cases unformed
      rfl

/-- A slot that holds a keyword or a sentinel is not behind the end. -/
theorem lt_length_of_slot {position : Nat} {slot : Slot} (written : table.slot position = slot)
    (used : slot ≠ .other) : position < table.length := by
  apply Nat.lt_of_not_le
  intro beyond
  exact used (written.symm.trans (table.unwritten position beyond))

/-- The slot of a record lies below the bound of tables. -/
theorem slot_lt_bound {distance position : Nat} (positive : 0 < distance)
    (inside : position < table.recordCount distance) : position * distance + 1 < bound := by
  have slot := (table.lt_recordCount positive position).mp inside
  have room := table.bounded
  omega

/-- A table has fewer keywords than it may have slots. -/
theorem length_lt_bound (formed : table.keywords stride = .done keywords effort) :
    keywords.length < bound := by
  cases count : keywords.length with
  | zero => decide
  | succ last =>
      obtain ⟨distance, _, positive, bounded, _⟩ := entry_of_keywords formed
      have inside : last < keywords.length := by omega
      have below := slot_lt_bound positive (Nat.lt_of_lt_of_le inside bounded)
      have stretched : last ≤ last * distance := Nat.le_mul_of_pos_right last positive
      omega

/-- The number of keywords is small enough for exact numbers. -/
theorem length_small (formed : table.keywords stride = .done keywords effort) :
    keywords.length < twoPower 53 :=
  Nat.lt_trans (length_lt_bound formed) (by decide)

/-- The positions of keywords are small enough for exact numbers. -/
theorem position_small (formed : table.keywords stride = .done keywords effort)
    {position : Nat} (inside : position < keywords.length) : position < twoPower 53 :=
  Nat.lt_trans inside (length_small formed)

/-- One keyword is read from its slot as it is read with all the others. -/
theorem keywordAt_of_keywords (formed : table.keywords stride = .done keywords effort)
    {position : Nat} (inside : position < keywords.length) :
    table.keywordAt stride (.ofNat position) = some keywords[position] := by
  have small := position_small formed inside
  obtain ⟨distance, equal, positive, bounded, entries⟩ := entry_of_keywords formed
  have below := slot_lt_bound positive (Nat.lt_of_lt_of_le inside bounded)
  rw [equal, Number.ofNat_eq_natural small, keywordAt_natural table below, entries position inside,
    Slot.keyword?]

/-- A table that was never filled has no keywords. -/
theorem keywords_default (formed : (default : Table).keywords stride = .done keywords effort) :
    keywords = [] := by
  obtain ⟨distance, _, positive, bounded, _⟩ := entry_of_keywords formed
  have none_there : (default : Table).recordCount distance = 0 := by
    have length : (default : Table).length = 0 := rfl
    rw [recordCount, length, Nat.zero_add]
    exact Nat.div_eq_of_lt (by omega)
  exact List.length_eq_zero_iff.mp (by omega)

end Table

/-- A kept resolution answers for its own table and stride only. -/
theorem Resolution.answers_iff {resolution : Resolution}
    (valid : Table.isStride resolution.stride = true) {table : Ref Table} {stride : Number} :
    resolution.answers table stride = true ↔
      resolution.table = table ∧ resolution.stride = stride := by
  obtain ⟨distance, equal, positive⟩ := Table.natural_of_isStride valid
  rw [answers, Bool.and_eq_true, decide_eq_true_iff, equal, Number.equals_natural positive]
  exact and_congr_right fun _ => eq_comm

end CommandWords
