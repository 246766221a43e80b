/-
This file shows that a failed lookup leaves everything as it was, but for the text that it read and
the failure that it counted.
-/

import CommandWords.Proofs.Lookup.Accounts

namespace CommandWords

variable {Data : Type} {catalogue : Catalogue Data}

namespace State

/-- The type of a representation was asked for the text of its payload. -/
def asked (state : State Data) (representation : Representation Data) : State Data :=
  state.noted representation.type .regenerate [state.argument representation.payload]

variable (catalogue) in
/-- What the type of a representation says when it is asked for the text. -/
def regeneration (state : State Data) (representation : Representation Data) :
    Except Fault String :=
  (catalogue.describe representation.type).regenerate (state.asked representation).view
    (state.argument representation.payload)

/-- The cell has a representation but no text. -/
structure Textless (state : State Data) (cell : CellRef Data)
    (representation : Representation Data) : Prop where
  missing : (state.cells.get cell).text = none
  held : (state.cells.get cell).representation = some representation

variable (catalogue) in
/-- The state after a text was read. A text that was missing is stored. -/
inductive Reading (cell : CellRef Data) (state : State Data) : String → State Data → Prop
  | stored {text : String} (found : (state.cells.get cell).text = some text) :
      Reading cell state text state
  | regenerated {representation : Representation Data} {text : String}
      (textless : state.Textless cell representation)
      (made : state.regeneration catalogue representation = .ok text) :
      Reading cell state text ((state.asked representation).setText cell (some text))

variable (catalogue) in
/-- What a failed lookup of a cell leaves behind. -/
structure Spares (cell : CellRef Data) (outcome : Outcome Number) (before later : State Data) :
    Prop where
  representation : (later.cells.get cell).representation = (before.cells.get cell).representation
  /-- The payloads have the contents that they had. -/
  objects : later.objects = before.objects
  others : ∀ other, other ≠ cell → later.cells.get other = before.cells.get other
  size : later.cells.size = before.cells.size
  tables : later.tables = before.tables
  interpreters : later.interpreters = before.interpreters
  registries : later.registries = before.registries
  /-- The only hook that may be called is the one that gives a missing text. -/
  text : (later.cells.get cell).text = (before.cells.get cell).text ∧ later.calls = before.calls ∨
    ∃ representation text, before.Textless cell representation ∧
      before.regeneration catalogue representation = .ok text ∧
        (later.cells.get cell).text = some text ∧
          later.calls = ⟨representation.type, .regenerate,
            [before.argument representation.payload]⟩ :: before.calls
  reason : outcome.failsFor .invariantViolated ∨ outcome.failsFor .noMatch ∨
    outcome.failsFor .ambiguous
  malformed : outcome.failsFor .invariantViolated → later = before
  counted : outcome.failsFor .noMatch ∨ outcome.failsFor .ambiguous →
    ∃ comparisons, outcome.effort.comparisons = some comparisons ∧
      later.ledger.counters =
        { before.ledger.counters with
          failures := before.ledger.counters.failures + 1
          comparisons := before.ledger.counters.comparisons.add comparisons }

end State

namespace Action

open State (Textless Reading)

variable {cell : CellRef Data} {state later : State Data}

variable (catalogue) in
theorem run_text_of_missing {representation : Representation Data}
    (textless : state.Textless cell representation) :
    (text catalogue cell).run state =
      ((ofResult (state.regeneration catalogue representation) >>= fun found => do
        change fun present => present.setText cell (some found)
        pure found : Action Data String)).run (state.asked representation) := by
  unfold text
  rw [run_bind_ok (run_state state)]
  simp only [textless.missing, textless.held]
  rfl

theorem run_text_of_regenerated {representation : Representation Data} {found : String}
    (textless : state.Textless cell representation)
    (made : state.regeneration catalogue representation = .ok found) :
    (text catalogue cell).run state =
      (.ok found, (state.asked representation).setText cell (some found)) := by
  rw [run_text_of_missing catalogue textless, made]
  rfl

theorem run_text_of_refused {representation : Representation Data} {fault : Fault}
    (textless : state.Textless cell representation)
    (failed : state.regeneration catalogue representation = .error fault) :
    (text catalogue cell).run state = (.error fault, state.asked representation) := by
  rw [run_text_of_missing catalogue textless, failed]
  rfl

theorem reading_of_text {key : String}
    (ended : (text catalogue cell).run state = (.ok key, later)) :
    state.Reading catalogue cell key later := by
  have read := text_run catalogue cell state
  rw [ended] at read
  cases read with
  | stored found =>
      rw [run_text_of_stored catalogue found] at ended
      cases ended
      exact .stored found
  | @regenerated representation _ _ missing held made same =>
      have textless : state.Textless cell representation := ⟨missing, held⟩
      cases result : state.regeneration catalogue representation with
      | ok found =>
          rw [run_text_of_regenerated textless result] at ended
          cases ended
          exact .regenerated textless result
      | error fault =>
          rw [run_text_of_refused textless result] at ended
          cases ended

end Action

namespace State

variable {cell : CellRef Data} {state later : State Data} {key : String}

theorem spares_malformed {failure : Failure Diagnostic} (effort : Effort)
    (reason : failure.reason = .invariantViolated) :
    state.Spares catalogue cell (.fail failure effort) state where
  representation := rfl
  objects := rfl
  others _ _ := rfl
  size := rfl
  tables := rfl
  interpreters := rfl
  registries := rfl
  text := .inl ⟨rfl, rfl⟩
  reason := by simp [Outcome.failsFor, Failure.hasReason, reason]
  malformed _ := rfl
  counted unmatched := by simp [Outcome.failsFor, Failure.hasReason, reason] at unmatched

/-- A text is read and the failure of the scan is noted. -/
theorem Reading.spares (reading : state.Reading catalogue cell key later) {label : String}
    {misfit : Message.Misfit} {comparisons : Number} {failure : Failure Diagnostic}
    {cached : Option Bool} (reason : failure.reason = misfit.reason) :
    state.Spares catalogue cell (.fail failure ⟨some comparisons, cached⟩)
      (later.noteEvent (.fail label key misfit comparisons)) where
  representation := by
    cases reading with
    | stored found => rfl
    | @regenerated representation _ textless made =>
        exact representation_setText (state.asked representation) cell cell (some key)
  objects := by cases reading <;> rfl
  others other different := by
    cases reading with
    | stored found => rfl
    | regenerated textless made => exact get_setText_other _ cell different _
  size := by cases reading <;> rfl
  tables := by cases reading <;> rfl
  interpreters := by cases reading <;> rfl
  registries := by cases reading <;> rfl
  text := by
    cases reading with
    | stored found => exact .inl ⟨rfl, rfl⟩
    | @regenerated representation _ textless made =>
        refine .inr ⟨representation, key, textless, made, ?_, rfl⟩
        exact congrArg Cell.text (get_setText _ cell _)
  reason := by
    cases misfit <;> simp [Outcome.failsFor, Failure.hasReason, reason, Message.Misfit.reason]
  malformed violated := by
    cases misfit <;>
      simp [Outcome.failsFor, Failure.hasReason, reason, Message.Misfit.reason] at violated
  counted _ := by
    refine ⟨comparisons, rfl, ?_⟩
    rw [noteEvent, Ledger.counters_record]
    cases reading <;> rfl

end State

variable (catalogue)

/-- A lookup of a cell that ends without an answer changes next to nothing. -/
structure Action.FailsInPlace (cell : CellRef Data) (lookup : Action Data (Outcome Number)) :
    Prop where
  failed : ∀ {state outcome}, (lookup.run state).1 = .ok outcome → outcome.isFail →
    state.Spares catalogue cell outcome (lookup.run state).2
  /-- Only the call that failed is noted. -/
  unread : ∀ {state representation refusal fault}, state.Textless cell representation →
    state.regeneration catalogue representation = .error refusal →
      (lookup.run state).1 = .error fault →
        fault = refusal ∧ (lookup.run state).2 = state.asked representation

theorem Question.ask_fails_in_place (question : Question Data) :
    (question.ask catalogue).FailsInPlace catalogue question.cell := by
  constructor
  · intro state outcome ended failed
    have run := question.ask_run catalogue state
    rw [ended] at run
    generalize ((question.ask catalogue).run state).2 = later at run ⊢
    cases run with
    | hit kept => cases failed
    | malformed unkept unformed =>
        exact State.spares_malformed _ (Table.reason_of_malformed unformed)
    | @refused keywords key read reads unresolved =>
        have reading := Action.reading_of_text reads.ended
        unfold Scan.refusal
        cases (Scan.run key keywords).misfit with
        | bad => exact reading.spares rfl
        | ambiguous => exact reading.spares rfl
    | settled reads resolved installed => cases failed
  · intro state representation refusal fault textless failed ended
    have text := Action.run_text_of_refused textless failed
    have run := question.ask_run catalogue state
    rw [ended] at run
    generalize ((question.ask catalogue).run state).2 = later at run ⊢
    cases run with
    | unread unkept unread =>
        rw [text] at unread
        cases unread
        exact ⟨rfl, rfl⟩
    | lost reads installed => cases text.symm.trans reads.ended

/-- A lookup that fails spares the cell, its payload and everything else. It reads the text only of
a table that is well formed, and counts only a text that does not fit. A text that cannot be read
leaves the cell and the ledger alone. -/
theorem lookup_fails_in_place (cell : CellRef Data) (table : Ref Table) (label : String)
    (exactOnly : Bool) :
    (∀ stride, (Action.lookup catalogue cell table stride label exactOnly).FailsInPlace
      catalogue cell) ∧
      (Action.lookupFlat catalogue cell table label exactOnly).FailsInPlace catalogue cell :=
  ⟨fun stride => Question.ask_fails_in_place catalogue ⟨cell, table, stride, label, exactOnly⟩,
    Question.ask_fails_in_place catalogue ⟨cell, table, Table.flatStride, label, exactOnly⟩⟩

/-- A cell that lost its text fails in another table and shows its full keyword again. Once the
caller empties the table of the keyword, the text cannot be read. -/
theorem lookup_fails_in_place_textless :
    let operations : List (Operation Unit) :=
      [.invalidateText ⟨0⟩, .lookup ⟨⟨0⟩, ⟨0⟩, 1, "option", false⟩, .ofText "sta",
        .addTable (.ofKeywords ["go", "halt"]), .addTable (.ofKeywords ["start", "stop"])]
    let state := session .inert operations
    let emptied := session .inert (.changeTable ⟨0⟩ .empty :: operations)
    let lookup : Action Unit (Outcome Number) := .lookup .inert ⟨0⟩ ⟨1⟩ 1 "option" false
    (∃ outcome, (lookup.run state).1 = .ok outcome ∧ outcome.isFail ∧
      state.Spares .inert ⟨0⟩ outcome (lookup.run state).2) ∧
      ((lookup.run state).2.cells.get ⟨0⟩).text = some "start" ∧
        ∃ fault, (lookup.run emptied).1 = .error fault ∧
          (lookup.run emptied).2 = emptied.asked ⟨.resolution, .object ⟨0⟩⟩ := by
  intro operations state emptied lookup
  obtain ⟨failed, unread⟩ := (lookup_fails_in_place .inert ⟨0⟩ ⟨1⟩ "option" false).1 1
  refine ⟨?_, by decide +kernel, ?_⟩
  · have fails : (lookup.run state).1.toOption.any Outcome.isFail = true := by decide +kernel
    cases ended : (lookup.run state).1 with
    | ok outcome =>
        rw [ended] at fails
        exact ⟨outcome, rfl, fails, failed ended fails⟩
    | error fault =>
        rw [ended] at fails
        cases fails
  · have textless : emptied.Textless ⟨0⟩ ⟨.resolution, .object ⟨0⟩⟩ :=
      ⟨by decide +kernel, by decide +kernel⟩
    have refuses : (emptied.regeneration .inert ⟨.resolution, .object ⟨0⟩⟩).toOption = none := by
      decide +kernel
    have stops : (lookup.run emptied).1.toOption.isNone = true := by decide +kernel
    cases refused : emptied.regeneration .inert ⟨.resolution, .object ⟨0⟩⟩ with
    | ok text =>
        rw [refused] at refuses
        cases refuses
    | error refusal =>
        cases ended : (lookup.run emptied).1 with
        | ok outcome =>
            rw [ended] at stops
            cases stops
        | error fault => exact ⟨fault, rfl, (unread textless refused ended).2⟩

end CommandWords
