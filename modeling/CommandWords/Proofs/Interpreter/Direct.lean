/-
This file shows that interpreters add nothing to lookups but their results. A run with the direct
lookups in place of those through interpreters takes the same way through cells, hooks and ledger.
-/

import CommandWords.Proofs.Interpreter.LastWrite
import CommandWords.Proofs.Interpreter.Unfolded
import CommandWords.Proofs.Lookup.LookupRun

namespace CommandWords

variable {Data : Type} {catalogue : Catalogue Data}

structure Interpreter.SameButResult {Word : Type} (first second : Interpreter Word) : Prop where
  alternate : second.alternate = first.alternate
  dispatch : second.dispatch = first.dispatch
  configuration : second.configuration = first.configuration

theorem Interpreter.SameButResult.refl {Word : Type} (interpreter : Interpreter Word) :
    interpreter.SameButResult interpreter := ⟨rfl, rfl, rfl⟩

/-- The states differ in the results of interpreters at most. -/
structure State.SameButResults (first second : State Data) : Prop where
  tables : second.tables = first.tables
  objects : second.objects = first.objects
  cells : second.cells = first.cells
  registries : second.registries = first.registries
  ledger : second.ledger = first.ledger
  calls : second.calls = first.calls
  interpreterCount : second.interpreters.size = first.interpreters.size
  interpreter : ∀ interpreter,
    (first.interpreters.get interpreter).SameButResult (second.interpreters.get interpreter)

/-- The interpreters are the same but for their results, and the ledgers are the same. -/
def Pairing.unsettled : Pairing Data where
  interpreters first second := second.size = first.size ∧
    ∀ interpreter, (first.get interpreter).SameButResult (second.get interpreter)
  ledgers := Eq

namespace Pairing

theorem pairs_unsettled_iff {first second : State Data} :
    unsettled.Pairs first second ↔ first.SameButResults second := by
  constructor
  · intro pairs
    cases pairs with
    | beside paired logged => exact ⟨rfl, rfl, rfl, rfl, logged.symm, rfl, paired.1, paired.2⟩
  · intro same
    have apart : second = first.beside second.interpreters second.ledger := by
      obtain ⟨tables, objects, cells, interpreters, registries, ledger, calls⟩ := second
      obtain ⟨rfl, rfl, rfl, rfl, _, rfl, _⟩ := same
      rfl
    rw [apart]
    exact .beside ⟨same.interpreterCount, same.interpreter⟩ same.ledger.symm

variable {first second : Store (Interpreter (CellRef Data))}

/-- Interpreters stay alike where both are written alike but for the result. -/
theorem unsettled_set (alike : unsettled.interpreters first second) (target : InterpreterRef Data)
    {updated other : Interpreter (CellRef Data)} (same : updated.SameButResult other) :
    unsettled.interpreters (first.set target updated) (second.set target other) := by
  refine ⟨alike.1, fun interpreter => ?_⟩
  by_cases equal : interpreter = target
  · rw [equal, Store.get_set_self, Store.get_set_self]
    exact same
  · rw [Store.get_set_other _ equal, Store.get_set_other _ equal]
    exact alike.2 interpreter

/-- A result is all that may differ. -/
theorem unsettled_write (alike : unsettled.interpreters first second)
    (target : InterpreterRef Data) (result : String) :
    unsettled.interpreters (first.set target { first.get target with result }) second := by
  obtain ⟨alternate, dispatch, configuration⟩ := alike.2 target
  rw [← second.set_get target]
  exact unsettled_set alike target ⟨alternate, dispatch, configuration⟩

theorem unsettled_add (alike : unsettled.interpreters first second)
    (added : Interpreter (CellRef Data)) :
    unsettled.interpreters (first.add added) (second.add added) := by
  have next : second.next = first.next := congrArg Ref.mk alike.1
  refine ⟨congrArg (· + 1) alike.1, fun interpreter => ?_⟩
  by_cases equal : interpreter = first.next
  · rw [equal, Store.get_add_next, ← next, Store.get_add_next]
    exact .refl added
  · rw [Store.get_add_other _ equal, Store.get_add_other _ (next ▸ equal)]
    exact alike.2 interpreter

theorem records_unsettled : (unsettled : Pairing Data).Records := by
  intro first second event same
  exact congrArg (Ledger.record · event) same

theorem reports_unsettled : (unsettled : Pairing Data).Reports where
  configured interpreter alike := (alike.2 interpreter).configuration
  written interpreter result alike := by
    obtain ⟨alternate, dispatch, configuration⟩ := alike.2 interpreter
    exact unsettled_set alike interpreter ⟨alternate, dispatch, configuration⟩

end Pairing

namespace Action

open Pairing (unsettled)

variable {Value : Type}

theorem agrees_updateInterpreter (interpreter : InterpreterRef Data)
    {update : Interpreter (CellRef Data) → Interpreter (CellRef Data)}
    (kept : ∀ {first second : Interpreter (CellRef Data)}, first.SameButResult second →
      (update first).SameButResult (update second)) :
    (change fun present : State Data => present.updateInterpreter interpreter update).Agrees
      unsettled := by
  intro first second pairs
  cases pairs with
  | beside alike logged =>
      exact ⟨rfl, .beside (Pairing.unsettled_set alike interpreter (kept (alike.2 _))) logged⟩

/-- Different results may be written. -/
theorem matches_writeResult (interpreter : InterpreterRef Data) (one other : String) :
    Matches unsettled (writeResult interpreter one) (writeResult interpreter other) := by
  intro first second pairs
  cases pairs with
  | beside alike logged =>
      obtain ⟨alternate, dispatch, configuration⟩ := alike.2 interpreter
      refine ⟨rfl, .beside ?_ logged⟩
      apply Pairing.unsettled_set alike
      exact ⟨alternate, dispatch, configuration⟩

/-- The words of a report are printed before anything that was reported earlier is read. -/
theorem run_reportUsage_shown (interpreter : InterpreterRef Data) (count : Number)
    (words : List (CellRef Data)) (message : Option String) (state : State Data) :
    (reportUsage catalogue interpreter count words message).run state =
      let options := state.usageOptions interpreter message
      let behind := (message.filter (· ≠ "")).toList
      (showWords catalogue (!options.literalFirstWord)
          (Dispatch.undoAny options.dispatch (firstWords count words)) >>= fun printed =>
        writeResult interpreter
          (Message.usage (" ".intercalate (printed ++ behind)) options.previous)).run state := by
  rw [run_reportUsage, usageText, bind_assoc]
  rfl

/-- The earlier result may be a part of the report, but it decides nothing. -/
theorem agrees_reportUsage (interpreter : InterpreterRef Data) (count : Number)
    (words : List (CellRef Data)) (message : Option String) :
    (reportUsage catalogue interpreter count words message).Agrees unsettled := by
  intro first second pairs
  obtain ⟨_, dispatch, configuration⟩ :=
    (Pairing.pairs_unsettled_iff.mp pairs).interpreter interpreter
  have dispatched : (second.usageOptions interpreter message).dispatch =
      (first.usageOptions interpreter message).dispatch := dispatch
  have literal : (second.usageOptions interpreter message).literalFirstWord =
      (first.usageOptions interpreter message).literalFirstWord :=
    congrArg (fun configuration => configuration.usage.literalFirstWord) configuration
  rw [run_reportUsage_shown, run_reportUsage_shown]
  dsimp only
  rw [dispatched, literal]
  apply Matches.bind (agrees_showWords catalogue _ _) _ first second pairs
  intro printed
  exact matches_writeResult interpreter _ _

/-- What an interpreter writes for an outcome is all that it adds. -/
theorem matches_settle (interpreter : InterpreterRef Data) (outcome : Outcome Number) :
    Matches unsettled (settle interpreter outcome) (pure outcome.toExcept.toOption) := by
  cases outcome with
  | done index effort => exact agrees_pure _
  | fail failure effort =>
      intro first second pairs
      cases pairs with
      | beside alike logged => exact ⟨rfl, .beside (Pairing.unsettled_write alike _ _) logged⟩

theorem matches_resolve (question : Question Data) (interpreter : InterpreterRef Data) :
    Matches unsettled (question.ask catalogue >>= settle interpreter)
      ((fun outcome => outcome.toExcept.toOption) <$> question.ask catalogue) := by
  rw [map_eq_pure_bind]
  exact (agrees_ask Pairing.records_unsettled catalogue question).bind (matches_settle interpreter)

end Action

namespace Operation

/-- The operation without an interpreter. A lookup through an interpreter becomes a direct one, which
asks for exact matches where the call or else the settings of the interpreter do. -/
def direct (state : State Data) (operation : Operation Data) : Operation Data :=
  match operation.question? state with
  | some question => .lookup question
  | none => operation

/-- What an operation makes of the answer of its direct form. An interpreter gives back the index of
an outcome, and nothing for a failure. -/
def settled (operation : Operation Data) (answer : Answer Data) : Answer Data :=
  match operation, answer with
  | .resolve _ _ _ _ _ _, .found outcome => .resolved outcome.toExcept.toOption
  | _, answer => answer

theorem agrees_unsettled (catalogue : Catalogue Data) (operation : Operation Data) :
    (operation.perform catalogue).Agrees .unsettled := by
  by_cases attends : operation.Attends
  · cases operation with
    | addInterpreter configuration =>
        refine Action.Matches.map _ (Action.agrees_addInterpreter fun alike => ?_)
        exact ⟨alike.1, Pairing.unsettled_add alike _⟩
    | setAlternate interpreter alternate =>
        refine Action.Matches.map _ (Action.agrees_updateInterpreter interpreter fun same => ?_)
        exact ⟨rfl, same.dispatch, same.configuration⟩
    | setDispatch interpreter dispatch =>
        refine Action.Matches.map _ (Action.agrees_updateInterpreter interpreter fun same => ?_)
        exact ⟨same.alternate, rfl, same.configuration⟩
    | reportUsage interpreter count words message =>
        exact (Action.agrees_reportUsage interpreter count words message).map _
    | configureLedger limit enabled =>
        exact (Action.agrees_changeLedger fun logged =>
          congrArg (Ledger.configure · limit enabled) logged).map _
    | logEvent event => exact (Action.agrees_record Pairing.records_unsettled event).map _
    | clearLedger =>
        exact (Action.agrees_changeLedger fun logged => congrArg Ledger.clear logged).map _
    | _ => cases attends
  · exact agrees_perform Pairing.records_unsettled Pairing.reports_unsettled catalogue attends

end Operation

/-- A step and its direct form end alike and leave the same but for results. -/
theorem Step.direct_corresponds (catalogue : Catalogue Data) {first second : State Data}
    (same : first.SameButResults second) (operation : Operation Data) :
    let step : Step Data := ⟨first, operation⟩
    let direct : Step Data := ⟨second, operation.direct first⟩
    step.ending catalogue = (direct.ending catalogue).map operation.settled ∧
      (step.after catalogue).SameButResults (direct.after catalogue) := by
  have pairs := Pairing.pairs_unsettled_iff.mpr same
  obtain ⟨ended, left⟩ := operation.agrees_unsettled catalogue first second pairs
  have kept (settled : operation.settled = id) :
      ending catalogue ⟨first, operation⟩ =
          (ending catalogue ⟨second, operation⟩).map operation.settled ∧
        (after catalogue ⟨first, operation⟩).SameButResults
          (after catalogue ⟨second, operation⟩) := by
    rw [settled, Except.map_id]
    exact ⟨ended.symm, Pairing.pairs_unsettled_iff.mp left⟩
  cases operation with
  | resolve interpreter cell table stride label exact =>
      let settings := (first.interpreters.get interpreter).configuration.lookup
      let question : Question Data :=
        ⟨cell, table, stride, label, exact.getD settings.exactByDefault⟩
      let asks : Action Data (Outcome Number) := question.ask catalogue
      let resolves : Action Data (Option Number) := asks >>= Action.settle interpreter
      obtain ⟨ended, left⟩ : ((_ <$> asks).run second).1 = (resolves.run first).1 ∧
          Pairing.unsettled.Pairs (resolves.run first).2 ((_ <$> asks).run second).2 :=
        Action.matches_resolve question interpreter first second pairs
      show ((Answer.resolved <$> resolves).run first).1 =
          ((Answer.found <$> asks).run second).1.map _ ∧
        ((Answer.resolved <$> resolves).run first).2.SameButResults
          ((Answer.found <$> asks).run second).2
      rw [Action.run_map_ending, Action.run_map_ending, Action.run_map_after, Action.run_map_after]
      rw [Action.run_map_ending] at ended
      rw [Action.run_map_after] at left
      refine ⟨?_, Pairing.pairs_unsettled_iff.mp left⟩
      rw [← ended]
      cases (asks.run second).1 <;> rfl
  | _ => exact kept rfl

/-- A run without lookups through interpreters. -/
def directly (catalogue : Catalogue Data) : List (Operation Data) → List (Operation Data)
  | [] => []
  | operation :: earlier =>
      operation.direct (session catalogue earlier) :: directly catalogue earlier

theorem session_directly (catalogue : Catalogue Data) (operations : List (Operation Data)) :
    (session catalogue operations).SameButResults
      (session catalogue (directly catalogue operations)) := by
  induction operations with
  | nil => exact ⟨rfl, rfl, rfl, rfl, rfl, rfl, rfl, fun _ => .refl _⟩
  | cons operation earlier inductionHypothesis =>
      exact (Step.direct_corresponds catalogue inductionHypothesis operation).2

/-- Interpreters refine direct lookups and do not affect each other. Their scopes are steps of a run
as well. -/
theorem interpreters_refine_direct (catalogue : Catalogue Data)
    (operations : List (Operation Data)) (operation : Operation Data) :
    let state := session catalogue operations
    let step : Step Data := ⟨state, operation⟩
    let direct : Step Data :=
      ⟨session catalogue (directly catalogue operations), operation.direct state⟩
    let silent := fun interpreter (step : Step Data) =>
      ∀ text, ¬ step.Writes catalogue interpreter text
    state.SameButResults direct.before ∧
      step.ending catalogue = (direct.ending catalogue).map operation.settled ∧
      (∀ interpreter, state.interpreters.has interpreter = true →
        let current := state.interpreters.get interpreter
        let later := (step.after catalogue).interpreters.get interpreter
        later.configuration = current.configuration ∧
          (operation.interpreter? ≠ some interpreter → later = current) ∧
          (current.result = "" ∧ Throughout catalogue (silent interpreter) operations ∨
            ∃ since write past, operations = since ++ write :: past ∧
              Step.Writes catalogue interpreter ⟨session catalogue past, write⟩ current.result ∧
                During catalogue (silent interpreter) (write :: past) since)) ∧
      ∀ program : Program Data, ∃ later,
        Program.Retraces catalogue operations later (program.steps catalogue state)
          ((program.run catalogue).run state).2 := by
  intro state step direct silent
  have same := session_directly catalogue operations
  refine ⟨same, (Step.direct_corresponds catalogue same operation).1, ?_, ?_⟩
  · intro interpreter exist
    have born : step.before.interpreters.has interpreter = true := exist
    exact ⟨step.configuration_after born, step.interpreter_other born, session_result exist⟩
  · intro program
    exact program.unfolds catalogue state operations rfl

/-- An interpreter that refuses abbreviations has the message of its failure. A call that allows them
is a direct lookup that allows them, and it does not affect another interpreter. -/
theorem interpreters_refine_direct_strict :
    let lookup : LookupSettings := { Configuration.standard.lookup with exactByDefault := true }
    let strict : Configuration := { Configuration.standard with lookup }
    let operations : List (Operation Unit) :=
      [.resolve ⟨0⟩ ⟨0⟩ ⟨0⟩ 1 "option" none, .addInterpreter .standard, .addInterpreter strict,
        .ofText "sta", .addTable (.ofKeywords ["start", "stop"])]
    let state := session .inert operations
    let step : Step Unit := ⟨state, .resolve ⟨0⟩ ⟨0⟩ ⟨0⟩ 1 "option" (some false)⟩
    let direct : Step Unit :=
      ⟨session .inert (directly .inert operations), .lookup ⟨⟨0⟩, ⟨0⟩, 1, "option", false⟩⟩
    let message := "bad option \"sta\": must be start or stop"
    state.interpreters.has ⟨0⟩ = true ∧ state.interpreters.has ⟨1⟩ = true ∧
      (state.interpreters.get ⟨0⟩).result = message ∧
        (∃ since write past, operations = since ++ write :: past ∧
          Step.Writes .inert ⟨0⟩ ⟨session .inert past, write⟩ message) ∧
        step.ending .inert = (direct.ending .inert).map step.operation.settled ∧
          (step.after .inert).interpreters.get ⟨1⟩ = state.interpreters.get ⟨1⟩ := by
  intro lookup strict operations state step direct message
  have first : state.interpreters.has ⟨0⟩ = true := by decide +kernel
  have second : state.interpreters.has ⟨1⟩ = true := by decide +kernel
  have result : (state.interpreters.get ⟨0⟩).result = message := by decide +kernel
  -- The run is evaluated no further, so that terms of its states stay small.
  clear_value operations
  obtain ⟨_, ended, kept, _⟩ := interpreters_refine_direct .inert operations step.operation
  refine ⟨first, second, result, ?_, ended, ?_⟩
  · rcases (kept ⟨0⟩ first).2.2 with ⟨empty, _⟩ | ⟨since, write, past, split, writes, _⟩
    · exact absurd (result.symm.trans empty) (by decide)
    · exact ⟨since, write, past, split, result ▸ writes⟩
  · have apart : step.operation.interpreter? ≠ some ⟨1⟩ := by
      rintro ⟨⟩
    exact (kept ⟨1⟩ second).2.1 apart

end CommandWords
