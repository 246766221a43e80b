/-
This file defines keyword tables. A table is a row of slots that belongs to the caller, who may
change it at any time. Slots that nobody wrote take no room, so a table may be long and empty.
-/

import CommandWords.Number.Basic
import CommandWords.Store

namespace CommandWords

inductive Slot where
  | keyword (text : String)
  /-- The keywords of a table end before the first sentinel. -/
  | sentinel
  /-- Slots between the keywords may hold anything. -/
  | other
deriving DecidableEq, Repr

def Slot.keyword? : Slot → Option String
  | keyword text => some text
  | _ => none

/-- A table has fewer slots than this. -/
def Table.bound : Nat := twoPower 32

structure Table where
  length : Nat
  slot : Nat → Slot
  /-- A number that is no position may be written too. It never lengthens the table. -/
  aside : Number → Slot
  bounded : length < Table.bound
  unwritten : ∀ position, length ≤ position → slot position = .other

namespace Table

/-- The position that a number names, if it names one. -/
def position? (place : Number) : Option Nat := place.toNat?.filter fun position =>
  position + 1 < bound

theorem position?_natural {position : Nat} (small : position + 1 < bound) :
    position? (.natural position) = some position := by
  simp [position?, small]

theorem lt_of_position? {place : Number} {position : Nat}
    (named : position? place = some position) : position + 1 < bound := by
  obtain ⟨_, inside⟩ := Option.filter_eq_some_iff.mp named
  exact of_decide_eq_true inside

def slotAt (table : Table) (place : Number) : Slot :=
  match position? place with
  | some position => table.slot position
  | none => table.aside place

theorem slotAt_natural (table : Table) {position : Nat} (small : position + 1 < bound) :
    table.slotAt (.natural position) = table.slot position := by
  rw [slotAt, position?_natural small]

/-- Slots beyond the bound are dropped. -/
def append (table : Table) (slots : List Slot) : Table :=
  let added := (slots.take (bound - 1 - table.length)).toArray
  { length := table.length + added.size
    slot := fun position =>
      if position < table.length then table.slot position
      else added[position - table.length]?.getD .other
    aside := table.aside
    bounded := by
      have room := table.bounded
      have := List.length_take_le (bound - 1 - table.length) slots
      simp only [added, List.size_toArray]
      omega
    unwritten := by
      intro position beyond
      have outside : ¬ position < table.length := by omega
      have end_le : added.size ≤ position - table.length := by omega
      rw [if_neg outside, Array.getElem?_eq_none end_le, Option.getD_none] }

def empty : Table where
  length := 0
  slot := fun _ => .other
  aside := fun _ => .other
  bounded := by decide
  unwritten := fun _ _ => rfl

instance : Inhabited Table := ⟨empty⟩

def ofSlots (slots : List Slot) : Table := empty.append slots

def ofKeywords (keywords : List String) : Table := ofSlots (keywords.map .keyword)

theorem length_ofSlots {slots : List Slot} (small : slots.length < bound) :
    (ofSlots slots).length = slots.length := by
  simp only [ofSlots, append, empty, List.size_toArray, List.length_take]
  omega

theorem slot_ofSlots {slots : List Slot} (small : slots.length < bound) (position : Nat) :
    (ofSlots slots).slot position = slots[position]?.getD .other := by
  have whole : slots.take (bound - 1) = slots := List.take_of_length_le (by omega)
  simp [ofSlots, append, empty, whole]

/-- The table grows or shrinks at its end. -/
def resize (table : Table) (length : Nat) : Table where
  length := min length (bound - 1)
  slot := fun position => if position < min length (bound - 1) then table.slot position else .other
  aside := table.aside
  bounded := by
    have positive : 0 < bound := by decide
    omega
  unwritten := by
    intro position beyond
    exact if_neg (Nat.not_lt.mpr beyond)

/-- A slot behind the end extends the table. -/
def write (table : Table) (place : Number) (slot : Slot) : Table :=
  match named : position? place with
  | none => { table with aside := fun other => if other = place then slot else table.aside other }
  | some position =>
      { length := max table.length (position + 1)
        slot := fun other => if other = position then slot else table.slot other
        aside := table.aside
        bounded := by
          have := table.bounded
          have := lt_of_position? named
          omega
        unwritten := by
          intro other beyond
          have different : other ≠ position := by omega
          rw [if_neg different]
          exact table.unwritten other (by omega) }

/-- What lies aside is not copied. -/
def copy (table : Table) : Table := { table with aside := fun _ => .other }

end Table

/-- A resolution is the answer of a lookup: a table, the distance of its keywords and the number
of the keyword among them. -/
structure Resolution where
  table : Ref Table
  stride : Number
  index : Number
deriving DecidableEq

/-- Tables are compared by identity, never by content. -/
def Resolution.answers (resolution : Resolution) (table : Ref Table) (stride : Number) : Bool :=
  resolution.table = table && resolution.stride.equals stride

end CommandWords
