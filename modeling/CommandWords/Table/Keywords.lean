/-
This file reads the keywords of a table. The keyword of record k stands in slot k times the stride.
-/

import CommandWords.Outcome.Basic
import CommandWords.Table.Basic

namespace CommandWords.Table

/-- The stride of a flat table. -/
def flatStride : Number := 1

/-- The distance that a stride stands for, if it is a positive integer. -/
def distance? (stride : Number) : Option Nat := stride.toNat?.filter (0 < ·)

def isStride (stride : Number) : Bool := (distance? stride).isSome

theorem distance?_eq_some {stride : Number} {distance : Nat} :
    distance? stride = some distance ↔ stride = .natural distance ∧ 0 < distance := by
  simp only [distance?, Option.filter_eq_some_iff, decide_eq_true_eq]
  constructor
  · intro ⟨equal, positive⟩
    exact ⟨Number.eq_natural_of_toNat? positive equal, positive⟩
  · intro ⟨equal, positive⟩
    exact ⟨by rw [equal, Number.toNat?_natural], positive⟩

/-- The number of records, of which the last may be cut short. -/
def recordCount (table : Table) (distance : Nat) : Nat := (table.length + distance - 1) / distance

theorem lt_recordCount (table : Table) {distance : Nat} (positive : 0 < distance) (ordinal : Nat) :
    ordinal < table.recordCount distance ↔ ordinal * distance < table.length := by
  rw [recordCount, Nat.lt_iff_add_one_le, Nat.le_div_iff_mul_le positive, Nat.succ_mul]
  omega

/-- The slot with the keyword of one record. -/
def entry (table : Table) (distance ordinal : Nat) : Slot := table.slot (ordinal * distance)

/-- The keywords of some records from one on, up to the sentinel, or the number of the first
record without a keyword. -/
def keywordsFrom (table : Table) (distance : Nat) : Nat → Nat → Except Nat (List String)
  | _, 0 => .ok []
  | ordinal, records + 1 =>
      match table.entry distance ordinal with
      | .sentinel => .ok []
      | .other => .error ordinal
      | .keyword text => (keywordsFrom table distance (ordinal + 1) records).map (text :: ·)

/-- The keywords of a table in their order. -/
def keywords (table : Table) (stride : Number) : Outcome (List String) :=
  match distance? stride with
  | none => .malformed ("stride must be a positive integer, got " ++ stride.text)
  | some distance =>
      match table.keywordsFrom distance 0 (table.recordCount distance) with
      | .ok found => .done found .unknown
      | .error ordinal =>
          .malformed ("entry " ++ toString ordinal ++ " at slot " ++
            toString (ordinal * distance) ++ " is not a string")

/-- The keyword of one record is read from its slot alone. -/
def keywordAt (table : Table) (stride index : Number) : Option String :=
  (table.slotAt (index.mul stride)).keyword?

theorem keywordAt_natural (table : Table) {distance ordinal : Nat}
    (small : ordinal * distance + 1 < bound) :
    table.keywordAt (.natural distance) (.natural ordinal) =
      (table.entry distance ordinal).keyword? := by
  have limit : bound < twoPower 53 := by decide
  have exact : ordinal * distance < twoPower 53 := by omega
  rw [keywordAt, Number.mul_natural exact, slotAt_natural table small, entry]

end CommandWords.Table
