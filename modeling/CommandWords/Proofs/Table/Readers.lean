/-
This file compares the two readers of a table. One reads all keywords up to the sentinel, the other
reads one keyword from its slot and does not look for a sentinel before it.
-/

import CommandWords.Proofs.Number.Vast
import CommandWords.Proofs.Table.Positions

namespace CommandWords

theorem Slot.keyword?_eq_some {slot : Slot} {text : String} :
    slot.keyword? = some text ↔ slot = .keyword text := by
  cases slot <;> simp [Slot.keyword?]

namespace Table

/-- A keyword that the reader of all keywords does not come to. It stands behind a sentinel, or it
was written under a number that is no position. -/
inductive Stray (table : Table) (stride : Number) (index : Nat) (text : String) : Prop
  | behind {distance ended : Nat} (named : distance? stride = some distance)
      (sentinel : table.entry distance ended = .sentinel) (later : ended < index)
      (written : table.entry distance index = .keyword text) : Stray table stride index text
  | aside (unplaced : position? ((Number.ofNat index).mul stride) = none)
      (written : table.aside ((Number.ofNat index).mul stride) = .keyword text) :
      Stray table stride index text

variable {table : Table} {stride : Number} {keywords : List String} {effort : Effort}
  {index : Nat} {text : String}

/-- The direct reader finds the keywords in the entries of records and what lies aside. -/
theorem keywordAt_eq_some_iff {distance : Nat} (positive : 0 < distance) :
    table.keywordAt (.natural distance) (.ofNat index) = some text ↔
      table.entry distance index = .keyword text ∨
        position? ((Number.ofNat index).mul (.natural distance)) = none ∧
          table.aside ((Number.ofNat index).mul (.natural distance)) = .keyword text := by
  rw [keywordAt, slotAt, position?_product index positive, Slot.keyword?_eq_some]
  by_cases near : index * distance + 1 < bound
  · simp [near, entry]
  · have absent : ¬ table.entry distance index = .keyword text := by
      intro written
      have inside := lt_length_of_slot written (by simp)
      have room := table.bounded
      omega
    simp [near, absent]

theorem Stray.keywordAt (stray : table.Stray stride index text) :
    table.keywordAt stride (.ofNat index) = some text := by
  cases stray with
  | behind named sentinel later written =>
      obtain ⟨rfl, positive⟩ := distance?_eq_some.mp named
      exact (keywordAt_eq_some_iff positive).mpr (.inl written)
  | aside unplaced written => rw [Table.keywordAt, slotAt, unplaced, written, Slot.keyword?]

/-- The keywords that are read with all the others are no strays. -/
theorem Stray.length_le (stray : table.Stray stride index text)
    (formed : table.keywords stride = .done keywords effort) : keywords.length ≤ index := by
  obtain ⟨distance, equal, positive, bounded, entries⟩ := entry_of_keywords formed
  apply Nat.le_of_not_lt
  intro inside
  cases stray with
  | @behind found ended named sentinel later written =>
      obtain rfl : found = distance :=
        Option.some.inj (named.symm.trans (distance?_eq_some.mpr ⟨equal, positive⟩))
      rw [entries ended (Nat.lt_trans later inside)] at sentinel
      cases sentinel
  | aside unplaced written =>
      have near := slot_lt_bound positive (Nat.lt_of_lt_of_le inside bounded)
      rw [equal, position?_product index positive, if_pos near] at unplaced
      cases unplaced

/-- Behind the last keyword the direct reader finds nothing but strays. -/
theorem stray_of_keywordAt (formed : table.keywords stride = .done keywords effort)
    (beyond : keywords.length ≤ index)
    (read : table.keywordAt stride (.ofNat index) = some text) :
    table.Stray stride index text := by
  obtain ⟨_, distance, rfl, positive, fills⟩ := keywords_eq_done_iff.mp formed
  have named : distance? (.natural distance) = some distance :=
    distance?_eq_some.mpr ⟨rfl, positive⟩
  rcases (keywordAt_eq_some_iff positive).mp read with written | ⟨unplaced, written⟩
  · rcases fills.ended with whole | ⟨within, sentinel⟩
    · have inside := (table.lt_recordCount positive index).mpr (lt_length_of_slot written (by simp))
      omega
    · rw [Nat.zero_add] at sentinel
      -- The record of the sentinel holds no keyword, so this one comes later.
      have later : keywords.length < index := by
        apply Nat.lt_of_le_of_ne beyond
        rintro rfl
        cases sentinel.symm.trans written
      exact .behind named sentinel later written
  · exact .aside unplaced written

/-- Both readers agree on every index without a stray keyword. A stray keyword lies behind the last
one that is read with all the others, and there the direct reader gives it. -/
theorem readers_agree_iff (formed : table.keywords stride = .done keywords effort)
    (index : Nat) :
    (table.keywordAt stride (.ofNat index) = keywords[index]? ↔
        ∀ text, ¬ table.Stray stride index text) ∧
      ∀ text, table.Stray stride index text →
        keywords.length ≤ index ∧ table.keywordAt stride (.ofNat index) = some text := by
  refine ⟨⟨?_, ?_⟩, fun text stray => ⟨stray.length_le formed, stray.keywordAt⟩⟩
  · intro agree text stray
    rw [stray.keywordAt, List.getElem?_eq_none (stray.length_le formed)] at agree
    cases agree
  · intro settled
    by_cases inside : index < keywords.length
    · rw [keywordAt_of_keywords formed inside, List.getElem?_eq_getElem inside]
    · have beyond := Nat.le_of_not_lt inside
      rw [List.getElem?_eq_none beyond]
      apply Option.eq_none_iff_forall_ne_some.mpr
      intro text read
      exact settled text (stray_of_keywordAt formed beyond read)

/-- A table with values between its keywords and a keyword behind its sentinel. -/
theorem readers_agree_iff_records :
    let table := ofSlots
      [.keyword "go", .other, .keyword "halt", .keyword "x", .sentinel, .other, .keyword "wait"]
    table.keywords 2 = .done ["go", "halt"] .unknown ∧
      (table.keywordAt 2 (.ofNat 3) = ["go", "halt"][3]? ↔ ∀ text, ¬ table.Stray 2 3 text) ∧
        table.Stray 2 3 "wait" ∧ ["go", "halt"].length ≤ 3 ∧
          table.keywordAt 2 (.ofNat 3) = some "wait" := by
  intro table
  have formed : table.keywords 2 = .done ["go", "halt"] .unknown :=
    keywords_of_result (by decide +kernel)
  have named : distance? 2 = some 2 := by decide +kernel
  have sentinel : table.entry 2 2 = .sentinel := by decide +kernel
  have stray : table.Stray 2 3 "wait" :=
    .behind named sentinel (Nat.lt_succ_self 2) (by decide +kernel)
  obtain ⟨agree, found⟩ := readers_agree_iff formed 3
  exact ⟨formed, agree, stray, found "wait" stray⟩

/-- The direct reader passes a sentinel by. -/
theorem keyword_behind_sentinel :
    let table := ofSlots [.keyword "a", .sentinel, .keyword "b"]
    table.keywords 1 = .done ["a"] .unknown ∧ ["a"][2]? = none ∧
      table.keywordAt 1 (.ofNat 2) = some "b" := by
  intro table
  exact ⟨keywords_of_result (by decide +kernel), rfl, by decide +kernel⟩

end Table

end CommandWords
