/-
This file says what a lookup answers to a text, and shows that a cell which keeps no answer is
answered so.
-/

import CommandWords.Proofs.Lookup.Justified

namespace CommandWords

variable {Data : Type} {catalogue : Catalogue Data}

/-- A new cell with a text has nothing else, so it keeps no answer. -/
theorem State.new_text (state : State Data) (catalogue : Catalogue Data) (text : String) :
    let fresh := state.addCell ⟨some text, none⟩
    (fresh.cells.get state.cells.next).representation = none ∧
      ((Action.text catalogue state.cells.next).run fresh).1 = .ok text ∧
        fresh.resolution? catalogue state.cells.next = none := by
  intro fresh
  have here : fresh.cells.get state.cells.next = ⟨some text, none⟩ := state.get_addCell_next _
  have bare : (fresh.cells.get state.cells.next).representation = none := by rw [here]
  refine ⟨bare, ?_, State.resolution?_of_bare (State.not_holds_of_bare bare)⟩
  rw [Action.run_text_of_stored catalogue (congrArg Cell.text here)]

namespace Question

/-- The answer to a key that is read from the table alone. -/
def verdict (question : Question Data) (tables : Store Table) (key : String) :
    Except (Failure Diagnostic) Number :=
  match (tables.get question.table).keywords question.stride with
  | .fail failure _ => .error failure
  | .done keywords _ =>
      match (Scan.run key keywords).resolved? question.exactOnly with
      | some position => .ok (.ofNat position)
      | none => ((Scan.run key keywords).refusal question.label key keywords).toExcept

/-- The same question about a new cell with a given text. -/
def askNew (question : Question Data) (catalogue : Catalogue Data) (text : String) :
    Action Data (Outcome Number) := do
  let fresh ← Action.ofText text
  Question.ask { question with cell := fresh } catalogue

theorem verdict_unformed {question : Question Data} {tables : Store Table}
    {failure : Failure Diagnostic} {effort : Effort} (key : String)
    (unformed : (tables.get question.table).keywords question.stride = .fail failure effort) :
    question.verdict tables key = .error failure := by
  rw [verdict, unformed]

theorem verdict_formed {question : Question Data} {tables : Store Table}
    {keywords : List String} {effort : Effort} (key : String)
    (formed : (tables.get question.table).keywords question.stride = .done keywords effort) :
    question.verdict tables key =
      match (Scan.run key keywords).resolved? question.exactOnly with
      | some position => .ok (.ofNat position)
      | none => ((Scan.run key keywords).refusal question.label key keywords).toExcept := by
  rw [verdict, formed]

/-- The empty text is no keyword and abbreviates none. -/
theorem verdict_empty (question : Question Data) (tables : Store Table) :
    ∃ failure, question.verdict tables "" = .error failure := by
  cases formed : (tables.get question.table).keywords question.stride with
  | fail failure effort => exact ⟨failure, verdict_unformed "" formed⟩
  | done keywords effort =>
      have unresolved : (Scan.run "" keywords).resolved? question.exactOnly = none := by
        rw [Scan.resolved?_run, if_pos rfl]
      rw [verdict_formed "" formed, unresolved]
      have fails := Scan.isFail_refusal (Scan.run "" keywords) question.label "" keywords
      cases refused : (Scan.run "" keywords).refusal question.label "" keywords with
      | done index effort =>
          rw [refused] at fails
          cases fails
      | fail failure effort => exact ⟨failure, rfl⟩

variable {question : Question Data} {state later : State Data}

/-- A cell that keeps no answer is answered by its text. -/
theorem LookupRun.verdict_of_unkept {outcome : Outcome Number} {key : String}
    (asked : LookupRun catalogue question state (.ok outcome) later)
    (unkept : state.keptAnswer? catalogue question.cell question.table question.stride = none)
    (read : ((Action.text catalogue question.cell).run state).1 = .ok key) :
    outcome.toExcept = question.verdict state.tables key := by
  cases asked with
  | hit kept =>
      rw [unkept] at kept
      cases kept
  | malformed _ unformed => rw [verdict_unformed key unformed, Outcome.toExcept]
  | refused reads unresolved =>
      rw [reads.ended] at read
      cases read
      obtain ⟨effort, formed⟩ := reads.formed
      rw [verdict_formed _ formed, unresolved]
  | settled reads resolved installed =>
      rw [reads.ended] at read
      cases read
      obtain ⟨effort, formed⟩ := reads.formed
      rw [verdict_formed _ formed, resolved, Outcome.toExcept]

/-- A lookup that can read its text ends well unless a custom payload cannot be freed. -/
theorem LookupRun.ok_of_text {ending : Except Fault (Outcome Number)} {key : String}
    (asked : LookupRun catalogue question state ending later)
    (read : ((Action.text catalogue question.cell).run state).1 = .ok key)
    (free : ∀ {present : State Data} {representation fault},
      (state.cells.get question.cell).representation = some representation →
        ¬ Action.FreeFails catalogue present representation fault) :
    ∃ outcome, ending = .ok outcome := by
  cases asked with
  | hit kept => exact ⟨_, rfl⟩
  | malformed unkept unformed => exact ⟨_, rfl⟩
  | refused reads unresolved => exact ⟨_, rfl⟩
  | settled reads resolved installed => exact ⟨_, rfl⟩
  | unread unkept ended =>
      rw [ended] at read
      cases read
  | @lost keywords key text later position fault reads installed =>
      cases installed.run with
      | unassigned accepted failed same =>
          obtain ⟨assign, calls, able, written⟩ := failed
          cases able
          cases written
      | lost held failed same =>
          have before := (reads.prepared.representation question.cell).symm.trans held
          exact absurd failed (free before)

/-- A new cell is answered by its text. -/
theorem askNew_verdict (question : Question Data) (state : State Data) (text : String) :
    ∃ outcome, ((question.askNew catalogue text).run state).1 = .ok outcome ∧
      outcome.toExcept = question.verdict state.tables text := by
  let fresh := state.addCell ⟨some text, none⟩
  let copy : Question Data := { question with cell := state.cells.next }
  have made : (question.askNew catalogue text).run state = (copy.ask catalogue).run fresh := rfl
  obtain ⟨bare, read, unkept⟩ := state.new_text catalogue text
  have unkept : fresh.keptAnswer? catalogue copy.cell copy.table copy.stride = none := by
    rw [State.keptAnswer?, unkept, Option.bind_none]
  have asked := copy.ask_run catalogue fresh
  rw [made]
  obtain ⟨outcome, ended⟩ := asked.ok_of_text read (by
    intro present representation fault held
    rw [bare] at held
    cases held)
  rw [ended] at asked ⊢
  exact ⟨outcome, rfl, asked.verdict_of_unkept unkept read⟩

/-- A kept answer that is justified is the answer to the text of its cell. -/
theorem verdict_of_kept {index : Number} {key : String} (sound : state.Sound catalogue)
    (kept : state.resolution? catalogue question.cell =
      some ⟨question.table, question.stride, index⟩)
    (inexact : question.exactOnly = false)
    (read : ((Action.text catalogue question.cell).run state).1 = .ok key) :
    question.verdict state.tables key = .ok index := by
  obtain ⟨keywords, position, keyword, stands, agrees⟩ := sound.justified kept
  obtain ⟨effort, formed⟩ := stands.formed
  have shown := State.run_text_of_kept kept stands.expand
  have resolved : (Scan.run key keywords).resolved? false = some position := by
    cases stored : (state.cells.get question.cell).text with
    | some found =>
        rw [stored, Option.getD_some] at shown
        cases read.symm.trans shown
        exact agrees key stored
    | none =>
        rw [stored, Option.getD_none] at shown
        cases read.symm.trans shown
        exact Scan.resolved_inexact stands.first
  rw [verdict_formed key formed, inexact, resolved]
  exact congrArg Except.ok stands.index.symm

end Question

end CommandWords
