/-
This file shows when a lookup is answered without a scan: exactly when the last change of the cell
was a successful lookup in the same table with the same stride.
-/

import CommandWords.Proofs.Session.LastAnswer
import CommandWords.Proofs.Table.Positions

namespace CommandWords

variable {Data : Type} {catalogue : Catalogue Data}

/-- The stride of a kept resolution is a positive integer. -/
theorem State.Owned.isStride {state : State Data} (owned : state.Owned) {cell : CellRef Data}
    {resolution : Resolution} (kept : state.resolution? catalogue cell = some resolution) :
    Table.isStride resolution.stride = true := by
  obtain ⟨payload, holds, content⟩ := holds_of_resolution? kept
  obtain ⟨reference, value, rfl, _, stored, valid⟩ := owned.object holds
  have equal : Content.resolution value = .resolution resolution := stored.symm.trans content
  cases equal
  exact valid

theorem State.Owned.keptAnswer?_iff {state : State Data} (owned : state.Owned)
    {cell : CellRef Data} {table : Ref Table} {stride index : Number} :
    state.keptAnswer? catalogue cell table stride = some index ↔
      state.resolution? catalogue cell = some ⟨table, stride, index⟩ := by
  unfold keptAnswer?
  cases kept : state.resolution? catalogue cell with
  | none => simp
  | some resolution =>
      have answers : resolution.answers table stride = true ↔
          resolution.table = table ∧ resolution.stride = stride :=
        Resolution.answers_iff (owned.isStride kept)
      simp only [Option.bind_some, Option.ite_none_right_eq_some, Option.some.injEq, answers]
      constructor
      · rintro ⟨⟨rfl, rfl⟩, rfl⟩
        rfl
      · rintro rfl
        exact ⟨⟨rfl, rfl⟩, rfl⟩

namespace Question

/-- The effort of an answer that the cell keeps. -/
def noEffort : Effort := ⟨some 0, some true⟩

theorem ask_of_kept {question : Question Data} {state : State Data} {index : Number}
    (kept : state.keptAnswer? catalogue question.cell question.table question.stride =
      some index) :
    (question.ask catalogue).run state =
      (.ok (.done index noEffort), state.noteEvent (.hit question.label index)) := by
  unfold ask Action.lookup
  rw [Action.run_bind_ok (Action.run_state state), kept]
  rfl

end Question

end CommandWords
