/-
This file reads off a run what cells should keep. Only the operations and their endings count here,
not the cells themselves.
-/

import CommandWords.Proofs.Session.Operation
import Mathlib.Logic.Function.Basic

namespace CommandWords

variable {Data : Type}

/-- What an operation means for the answer that a cell keeps. -/
inductive Mark (Data : Type) where
  | nothing
  | made (cell : CellRef Data)
  /-- The cell gets another representation or loses the one that it has. -/
  | reset (cell : CellRef Data)
  | answered (cell : CellRef Data) (resolution : Resolution)
  | copied (source copy : CellRef Data)
  | disposed (cell : CellRef Data)

/-- A lookup that succeeds without a kept answer leaves one. -/
def Question.mark (question : Question Data) : Except Fault (Outcome Number) → Mark Data
  | .ok (.done index effort) =>
      if effort.cached = some true then .nothing
      else .answered question.cell ⟨question.table, question.stride, index⟩
  | _ => .nothing

/-- A conversion to the type that the cell has already does not reset it. -/
def Operation.mark : Operation Data → Except Fault (Answer Data) → Mark Data
  | ofText _, .ok (.cell made) => .made made
  | ofPayload _ _, .ok (.cell made) => .made made
  | install cell _ _, .ok _ => .reset cell
  | freeRepresentation cell, .ok _ => .reset cell
  | duplicate source, .ok (.cell copy) => .copied source copy
  | dispose cell, .ok _ => .disposed cell
  | convert _ cell _, .ok (.converted (.done _ effort)) =>
      if effort.cached = some true then .nothing else .reset cell
  | _, _ => .nothing

def Step.mark (catalogue : Catalogue Data) (step : Step Data) : Mark Data :=
  match step.operation.question? step.before with
  | some question => question.mark ((question.ask catalogue).run step.before).1
  | none => step.operation.mark (step.ending catalogue)

/-- A copy starts with the answer of its source. -/
def Mark.carryAnswers (answers : CellRef Data → Option Resolution) :
    Mark Data → CellRef Data → Option Resolution
  | nothing => answers
  | made cell => Function.update answers cell none
  | reset cell => Function.update answers cell none
  | answered cell resolution => Function.update answers cell (some resolution)
  | copied source copy => Function.update answers copy (answers source)
  | disposed cell => Function.update answers cell none

/-- A copy of a cell that is out of use is out of use. -/
def Mark.carryUse (used : CellRef Data → Bool) : Mark Data → CellRef Data → Bool
  | nothing => used
  | made cell => Function.update used cell true
  | reset _ => used
  | answered _ _ => used
  | copied source copy => Function.update used copy (used source)
  | disposed cell => Function.update used cell false

/-- The cell that a mark is about. -/
def Mark.target? : Mark Data → Option (CellRef Data)
  | nothing => none
  | made cell => some cell
  | reset cell => some cell
  | answered cell _ => some cell
  | copied _ copy => some copy
  | disposed cell => some cell

theorem Mark.ne_target {mark : Mark Data} {cell target : CellRef Data}
    (untouched : mark.target? ≠ some cell) (found : mark.target? = some target) :
    cell ≠ target := by
  rintro rfl
  exact untouched found

/-- A mark about a cell says that it is new, that it lost what it had or that it has an answer. -/
theorem Mark.eq_of_target {mark : Mark Data} {cell : CellRef Data}
    (targeted : mark.target? = some cell) :
    (mark = .made cell ∨ ∃ source, mark = .copied source cell) ∨
      (mark = .reset cell ∨ mark = .disposed cell) ∨
        ∃ resolution, mark = .answered cell resolution := by
  cases mark with
  | nothing => cases targeted
  | made target =>
      cases targeted
      exact .inl (.inl rfl)
  | reset target =>
      cases targeted
      exact .inr (.inl (.inl rfl))
  | answered target resolution =>
      cases targeted
      exact .inr (.inr ⟨resolution, rfl⟩)
  | copied source target =>
      cases targeted
      exact .inl (.inr ⟨source, rfl⟩)
  | disposed target =>
      cases targeted
      exact .inr (.inl (.inr rfl))

theorem Mark.carryAnswers_other {mark : Mark Data} {cell : CellRef Data}
    (untouched : mark.target? ≠ some cell) (answers : CellRef Data → Option Resolution) :
    mark.carryAnswers answers cell = answers cell := by
  cases mark with
  | nothing => rfl
  | made target => exact Function.update_of_ne (ne_target untouched rfl) ..
  | reset target => exact Function.update_of_ne (ne_target untouched rfl) ..
  | answered target resolution => exact Function.update_of_ne (ne_target untouched rfl) ..
  | copied source copy => exact Function.update_of_ne (ne_target untouched rfl) ..
  | disposed target => exact Function.update_of_ne (ne_target untouched rfl) ..

variable (catalogue : Catalogue Data)

/-- The answer of the last lookup that changed a cell, unless something else changed it later. -/
def lastAnswer : List (Operation Data) → CellRef Data → Option Resolution
  | [] => fun _ => none
  | operation :: earlier =>
      (Step.mark catalogue ⟨session catalogue earlier, operation⟩).carryAnswers
        (lastAnswer earlier)

/-- Whether a cell was made and not disposed of since then. -/
def inUse : List (Operation Data) → CellRef Data → Bool
  | [] => fun _ => false
  | operation :: earlier =>
      (Step.mark catalogue ⟨session catalogue earlier, operation⟩).carryUse (inUse earlier)

end CommandWords
