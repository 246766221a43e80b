/-
This file shows what a kept answer stands for: a keyword of its table, which the cell shows and
which leads back to the same answer.
-/

import CommandWords.Proofs.Lookup.Verdict

namespace CommandWords

variable {Data : Type} {catalogue : Catalogue Data}

namespace State

variable {state : State Data} {cell : CellRef Data} {resolution : Resolution} {keyword : String}

end State

/-- The keyword that a resolution stands for resolves to its index, exactly and otherwise. -/
theorem Resolution.Stands.verdict {resolution : Resolution} {tables : Store Table}
    {keywords : List String} {position : Nat} {keyword : String}
    (stands : resolution.Stands tables keywords position keyword) (cell : CellRef Data)
    (label : String) (exactOnly : Bool) :
    Question.verdict ⟨cell, resolution.table, resolution.stride, label, exactOnly⟩ tables
      keyword = .ok resolution.index := by
  obtain ⟨effort, formed⟩ := stands.formed
  -- The position is the first one of its keyword, so lookups of both kinds find it.
  have resolved : (Scan.run keyword keywords).resolved? exactOnly = some position := by
    cases exactOnly with
    | true => exact stands.first
    | false => exact Scan.resolved_inexact stands.first
  rw [Question.verdict_formed keyword formed, resolved, stands.index]

end CommandWords
