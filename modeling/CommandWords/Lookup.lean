/-
This file looks up the text of a cell among the keywords of a table. The cell keeps the answer, so
the same question costs no comparisons again.
-/

import CommandWords.Table.Scan
import CommandWords.Value.Cell

namespace CommandWords

variable {Data : Type}

/-- The answer that a cell keeps for this very table and stride. -/
def State.keptAnswer? (state : State Data) (catalogue : Catalogue Data)
    (reference : CellRef Data) (table : Ref Table) (stride : Number) : Option Number :=
  (state.resolution? catalogue reference).bind fun resolution =>
    if resolution.answers table stride then some resolution.index else none

namespace Scan

def effort (scan : Scan) : Effort := ⟨some (.ofNat scan.comparisons), some false⟩

/-- A key with several abbreviated keywords is ambiguous even where abbreviations do not count. -/
def misfit (scan : Scan) : Message.Misfit := if 1 < scan.abbreviated then .ambiguous else .bad

/-- The outcome for a key that a scan does not resolve. -/
def refusal (scan : Scan) (label key : String) (keywords : List String) : Outcome Number :=
  let message := Message.badValue scan.misfit label key keywords
  match scan.misfit with
  | .ambiguous =>
      .severalMatches label key message (keywords.filter (abbreviates key)) scan.effort
  | .bad => .unmatched label key message scan.effort

end Scan

namespace Action

def record (event : Ledger.Event) : Action Data Unit :=
  change fun present => { present with ledger := present.ledger.record event }

variable (catalogue : Catalogue Data) (reference : CellRef Data)

/-- The answer of a scan is installed in the cell. -/
def settleScan (table : Ref Table) (stride : Number) (label key : String) (keywords : List String)
    (exactOnly : Bool) : Action Data (Outcome Number) := do
  let scan := Scan.run key keywords
  let comparisons := Number.ofNat scan.comparisons
  match scan.resolved? exactOnly with
  | none => do
      record (.fail label key scan.misfit comparisons)
      pure (scan.refusal label key keywords)
  | some position => do
      let index := Number.ofNat position
      let payload ← make (.object (.resolution ⟨table, stride, index⟩))
      install catalogue reference .resolution payload
      record (.scan label key index comparisons)
      pure (.done index scan.effort)

/-- The text is read only after the table is found to be well formed. -/
def lookup (table : Ref Table) (stride : Number) (label : String) (exactOnly : Bool) :
    Action Data (Outcome Number) := do
  let present ← state
  match present.keptAnswer? catalogue reference table stride with
  | some index => do
      record (.hit label index)
      pure (.done index ⟨some 0, some true⟩)
  | none =>
      match (present.tables.get table).keywords stride with
      | .fail failure effort => pure (.fail failure effort)
      | .done keywords _ => do
          let key ← text catalogue reference
          settleScan catalogue reference table stride label key keywords exactOnly

/-- Look up in a table that holds nothing but keywords. -/
def lookupFlat (table : Ref Table) (label : String) (exactOnly : Bool) :
    Action Data (Outcome Number) :=
  lookup catalogue reference table Table.flatStride label exactOnly

end Action

end CommandWords
