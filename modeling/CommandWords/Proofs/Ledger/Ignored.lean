/-
This file shows that the ledger influences nothing else: programs that differ in their calls of the
ledger only take the same steps from states that differ in their ledgers only.
-/

import CommandWords.Proofs.Interpreter.Program
import CommandWords.Proofs.Interpreter.Scoping
import Mathlib.Data.List.Forall2

namespace CommandWords

variable {Data : Type} {catalogue : Catalogue Data}

/-- The second state differs from the first one in its ledger only. -/
def State.SameButLedger (first second : State Data) : Prop :=
  ∃ ledger : Ledger, second = { first with ledger }

namespace State.SameButLedger

variable {first second : State Data}

theorem refl (state : State Data) : state.SameButLedger state := ⟨state.ledger, rfl⟩

theorem symm (same : first.SameButLedger second) : second.SameButLedger first := by
  obtain ⟨ledger, rfl⟩ := same
  exact ⟨first.ledger, rfl⟩

theorem trans {third : State Data} (same : first.SameButLedger second)
    (next : second.SameButLedger third) : first.SameButLedger third := by
  obtain ⟨ledger, rfl⟩ := same
  obtain ⟨ledger, rfl⟩ := next
  exact ⟨ledger, rfl⟩

theorem updateInterpreter (same : first.SameButLedger second) (interpreter : InterpreterRef Data)
    (update : Interpreter (CellRef Data) → Interpreter (CellRef Data)) :
    (first.updateInterpreter interpreter update).SameButLedger
      (second.updateInterpreter interpreter update) := by
  obtain ⟨ledger, rfl⟩ := same
  exact ⟨ledger, rfl⟩

end State.SameButLedger

/-- The interpreters are the same, and the ledgers are any. -/
def Pairing.unlogged : Pairing Data := ⟨Eq, fun _ _ => True⟩

theorem Pairing.pairs_unlogged_iff {first second : State Data} :
    Pairing.unlogged.Pairs first second ↔ first.SameButLedger second := by
  constructor
  · intro pairs
    cases pairs with
    | @beside interpreters ledger paired _ =>
        cases paired
        exact ⟨ledger, rfl⟩
  · rintro ⟨ledger, rfl⟩
    exact .beside rfl trivial

/-- An action that reads and changes interpreters or the ledger, but nothing by the ledger. -/
theorem Action.agrees_unlogged {Value : Type} {action : Action Data Value}
    (passes : ∀ state ledger, ∃ later,
      action.run { state with ledger } =
        ((action.run state).1, { (action.run state).2 with ledger := later })) :
    action.Agrees .unlogged := by
  intro first second pairs
  obtain ⟨ledger, rfl⟩ := Pairing.pairs_unlogged_iff.mp pairs
  obtain ⟨later, ended⟩ := passes first ledger
  rw [ended]
  exact ⟨rfl, Pairing.pairs_unlogged_iff.mpr ⟨later, rfl⟩⟩

theorem Operation.agrees_unlogged (catalogue : Catalogue Data) (operation : Operation Data) :
    (operation.perform catalogue).Agrees .unlogged := by
  have records : (Pairing.unlogged : Pairing Data).Records := fun _ _ => trivial
  have reports : (Pairing.unlogged : Pairing Data).Reports :=
    ⟨fun _ same => by cases same; rfl, fun _ _ same => by cases same; rfl⟩
  by_cases attends : operation.Attends
  · cases operation with
    | addInterpreter configuration => exact Action.agrees_unlogged fun _ _ => ⟨_, rfl⟩
    | setAlternate interpreter alternate => exact Action.agrees_unlogged fun _ _ => ⟨_, rfl⟩
    | setDispatch interpreter dispatch => exact Action.agrees_unlogged fun _ _ => ⟨_, rfl⟩
    | reportUsage interpreter count words message =>
        apply Action.Matches.map
        intro first second pairs
        have options : second.usageOptions interpreter message =
            first.usageOptions interpreter message := by
          obtain ⟨ledger, rfl⟩ := Pairing.pairs_unlogged_iff.mp pairs
          rfl
        rw [Action.run_reportUsage, Action.run_reportUsage, options]
        exact (Action.agrees_usageText catalogue _ _).bind
          (fun _ => Action.agrees_writeResult reports interpreter _) first second pairs
    | configureLedger limit enabled => exact Action.agrees_unlogged fun _ _ => ⟨_, rfl⟩
    | logEvent event => exact Action.agrees_unlogged fun _ _ => ⟨_, rfl⟩
    | clearLedger => exact Action.agrees_unlogged fun _ _ => ⟨_, rfl⟩
    | _ => cases attends
  · exact Operation.agrees_perform records reports catalogue attends

namespace Action

theorem Matches.run_unlogged {Value : Type} {action other : Action Data Value}
    (same : Matches .unlogged action other) {first second : State Data}
    (alike : first.SameButLedger second) :
    (other.run second).1 = (action.run first).1 ∧
      (action.run first).2.SameButLedger (other.run second).2 := by
  obtain ⟨ending, later⟩ := same first second (Pairing.pairs_unlogged_iff.mpr alike)
  exact ⟨ending, Pairing.pairs_unlogged_iff.mp later⟩

variable {action other : Action Data Unit}

/-- A scope sets a flag of an interpreter before its body and puts it back afterwards. -/
theorem Matches.flag (same : Matches .unlogged action other) {first second : State Data}
    (pairs : Pairing.unlogged.Pairs first second) (interpreter : InterpreterRef Data)
    (opening closing : Interpreter (CellRef Data) → Interpreter (CellRef Data)) :
    let ended := action.run (first.updateInterpreter interpreter opening)
    let otherEnded := other.run (second.updateInterpreter interpreter opening)
    otherEnded.1 = ended.1 ∧
      Pairing.unlogged.Pairs (ended.2.updateInterpreter interpreter closing)
        (otherEnded.2.updateInterpreter interpreter closing) := by
  have opened := (Pairing.pairs_unlogged_iff.mp pairs).updateInterpreter interpreter opening
  obtain ⟨ending, later⟩ := same.run_unlogged opened
  exact ⟨ending, Pairing.pairs_unlogged_iff.mpr (later.updateInterpreter interpreter closing)⟩

theorem Matches.underDispatch (same : Matches .unlogged action other)
    (interpreter : InterpreterRef Data) (dispatch : Dispatch (CellRef Data)) :
    Matches .unlogged (Action.withDispatch interpreter dispatch action)
      (Action.withDispatch interpreter dispatch other) := by
  intro first second pairs
  have found : second.interpreters = first.interpreters := by
    obtain ⟨ledger, rfl⟩ := Pairing.pairs_unlogged_iff.mp pairs
    rfl
  rw [run_withDispatch, run_withDispatch, found]
  exact same.flag pairs interpreter (fun current => { current with dispatch := some dispatch })
    fun inner => { inner with dispatch := (first.interpreters.get interpreter).dispatch }

theorem Matches.underAlternate (same : Matches .unlogged action other)
    (interpreter : InterpreterRef Data) :
    Matches .unlogged (Action.withAlternate interpreter action)
      (Action.withAlternate interpreter other) := by
  intro first second pairs
  have found : second.interpreters = first.interpreters := by
    obtain ⟨ledger, rfl⟩ := Pairing.pairs_unlogged_iff.mp pairs
    rfl
  rw [run_withAlternate, run_withAlternate, found]
  exact same.flag pairs interpreter (fun current => { current with alternate := true })
    fun inner => { inner with alternate := (first.interpreters.get interpreter).alternate }

end Action

namespace Program

/-- The program without its calls of the ledger. -/
def withoutLedger : Program Data → Program Data
  | done => done
  | ledger _ rest => withoutLedger rest
  | perform operation rest => perform operation (withoutLedger rest)
  | throw fault => throw fault
  | attempt body rest => attempt (withoutLedger body) (withoutLedger rest)
  | withDispatch interpreter dispatch body rest =>
      withDispatch interpreter dispatch (withoutLedger body) (withoutLedger rest)
  | withAlternate interpreter body rest =>
      withAlternate interpreter (withoutLedger body) (withoutLedger rest)

open CommandWords.Action in
theorem matches_withoutLedger (catalogue : Catalogue Data) (program : Program Data) :
    Matches .unlogged (program.run catalogue) (program.withoutLedger.run catalogue) := by
  induction program with
  | done => exact agrees_pure ()
  | ledger call rest restHypothesis =>
      intro first second pairs
      obtain ⟨ledger, rfl⟩ := Pairing.pairs_unlogged_iff.mp pairs
      exact restHypothesis _ _ (Pairing.pairs_unlogged_iff.mpr ⟨ledger, rfl⟩)
  | perform operation rest restHypothesis =>
      exact (operation.agrees_unlogged catalogue).bind fun _ => restHypothesis
  | throw fault => exact agrees_fail fault
  | attempt body rest bodyHypothesis restHypothesis =>
      exact bodyHypothesis.attempt.bind fun _ => restHypothesis
  | withDispatch interpreter dispatch body rest bodyHypothesis restHypothesis =>
      exact (bodyHypothesis.underDispatch interpreter dispatch).bind fun _ => restHypothesis
  | withAlternate interpreter body rest bodyHypothesis restHypothesis =>
      exact (bodyHypothesis.underAlternate interpreter).bind fun _ => restHypothesis

end Program

/-- The same operation does the same in states that differ in their ledgers only. -/
structure Step.Corresponds (catalogue : Catalogue Data) (first second : Step Data) : Prop where
  operation : second.operation = first.operation
  /-- The answer or the fault. -/
  ending : second.ending catalogue = first.ending catalogue
  before : first.before.SameButLedger second.before
  /-- All cells, payloads, tables, registries and interpreters are alike, and so are all calls of
  hooks so far. -/
  after : (first.after catalogue).SameButLedger (second.after catalogue)

theorem Step.corresponds (catalogue : Catalogue Data) (operation : Operation Data)
    {first second : State Data} (same : first.SameButLedger second) :
    Step.Corresponds catalogue ⟨first, operation⟩ ⟨second, operation⟩ := by
  obtain ⟨ending, later⟩ := (operation.agrees_unlogged catalogue).run_unlogged same
  exact ⟨rfl, ending, same, later⟩

theorem Step.Corresponds.trans {first second third : Step Data}
    (same : Step.Corresponds catalogue first second)
    (next : Step.Corresponds catalogue second third) : Step.Corresponds catalogue first third where
  operation := next.operation.trans same.operation
  ending := next.ending.trans same.ending
  before := same.before.trans next.before
  after := same.after.trans next.after

theorem forall₂_corresponds_trans {first second third : List (Step Data)}
    (same : List.Forall₂ (Step.Corresponds catalogue) first second)
    (next : List.Forall₂ (Step.Corresponds catalogue) second third) :
    List.Forall₂ (Step.Corresponds catalogue) first third := by
  induction same generalizing third with
  | nil => exact next
  | cons head _ inductionHypothesis =>
      cases next with
      | cons nextHead tail => exact .cons (head.trans nextHead) (inductionHypothesis tail)

namespace Program

/-- Two programs take the same steps from two states and end in the same way. -/
structure SameRuns (catalogue : Catalogue Data) (first second : Program Data)
    (start other : State Data) : Prop where
  steps : List.Forall₂ (Step.Corresponds catalogue) (first.steps catalogue start)
    (second.steps catalogue other)
  ending : ((second.run catalogue).run other).1 = ((first.run catalogue).run start).1
  after : ((first.run catalogue).run start).2.SameButLedger ((second.run catalogue).run other).2

theorem forall₂_unlessFault {Value : Type} {relation : Step Data → Step Data → Prop}
    {ended other : Except Fault Value × State Data}
    {next otherNext : State Data → List (Step Data)} (ending : other.1 = ended.1)
    (rest : List.Forall₂ relation (next ended.2) (otherNext other.2)) :
    List.Forall₂ relation (unlessFault ended next) (unlessFault other otherNext) := by
  obtain ⟨ending, later⟩ := ended
  obtain ⟨_, otherLater⟩ := other
  cases ending
  cases ending with
  | ok value => exact rest
  | error fault => exact .nil

theorem steps_withoutLedger (catalogue : Catalogue Data) (program : Program Data)
    {start other : State Data} (same : start.SameButLedger other) :
    List.Forall₂ (Step.Corresponds catalogue) (program.steps catalogue start)
      (program.withoutLedger.steps catalogue other) := by
  induction program generalizing start other with
  | done => exact .nil
  | ledger call rest restHypothesis =>
      obtain ⟨ledger, rfl⟩ := same
      exact restHypothesis ⟨ledger, rfl⟩
  | perform operation rest restHypothesis =>
      obtain ⟨ending, later⟩ := (operation.agrees_unlogged catalogue).run_unlogged same
      exact .cons (Step.corresponds catalogue operation same)
        (forall₂_unlessFault ending (restHypothesis later))
  | throw fault => exact .nil
  | attempt body rest bodyHypothesis restHypothesis =>
      obtain ⟨_, later⟩ := (body.matches_withoutLedger catalogue).run_unlogged same
      exact List.rel_append (bodyHypothesis same) (restHypothesis later)
  | withDispatch interpreter dispatch body rest bodyHypothesis restHypothesis =>
      obtain ⟨ending, later⟩ := ((body.matches_withoutLedger catalogue).underDispatch interpreter
        dispatch).run_unlogged same
      exact List.rel_append (bodyHypothesis (same.updateInterpreter interpreter _))
        (forall₂_unlessFault ending (restHypothesis later))
  | withAlternate interpreter body rest bodyHypothesis restHypothesis =>
      obtain ⟨ending, later⟩ := ((body.matches_withoutLedger catalogue).underAlternate
        interpreter).run_unlogged same
      exact List.rel_append (bodyHypothesis (same.updateInterpreter interpreter _))
        (forall₂_unlessFault ending (restHypothesis later))

variable {first second third : Program Data} {start middle other : State Data}

theorem SameRuns.symm (same : SameRuns catalogue first second start other) :
    SameRuns catalogue second first other start where
  steps := same.steps.flip.imp fun _ _ found =>
    ⟨found.operation.symm, found.ending.symm, found.before.symm, found.after.symm⟩
  ending := same.ending.symm
  after := same.after.symm

theorem SameRuns.trans (same : SameRuns catalogue first second start middle)
    (next : SameRuns catalogue second third middle other) :
    SameRuns catalogue first third start other where
  steps := forall₂_corresponds_trans same.steps next.steps
  ending := next.ending.trans same.ending
  after := same.after.trans next.after

theorem sameRuns_withoutLedger (catalogue : Catalogue Data) (program : Program Data)
    (same : start.SameButLedger other) :
    SameRuns catalogue program program.withoutLedger start other where
  steps := program.steps_withoutLedger catalogue same
  ending := ((program.matches_withoutLedger catalogue).run_unlogged same).1
  after := ((program.matches_withoutLedger catalogue).run_unlogged same).2

end Program

/-- Whatever the ledgers hold and whatever is done with them in between, the same operations give
the same answers and faults and leave everything else in the same state. -/
theorem ledger_ignored (catalogue : Catalogue Data) {first second : Program Data}
    {start other : State Data} (operations : first.withoutLedger = second.withoutLedger)
    (alike : start.SameButLedger other) : Program.SameRuns catalogue first second start other := by
  have firstRuns := first.sameRuns_withoutLedger catalogue alike
  have secondRuns := second.sameRuns_withoutLedger catalogue (State.SameButLedger.refl other)
  rw [operations] at firstRuns
  exact firstRuns.trans secondRuns.symm

/-- A lookup, an event and a report, once with a full log and once without any. -/
theorem ledger_ignored_unlogged :
    let question : Operation Unit := .lookup ⟨⟨0⟩, ⟨0⟩, 1, "option", false⟩
    let report : Operation Unit := .reportUsage ⟨0⟩ 1 [⟨0⟩] none
    let first : Program Unit :=
      .ledger (.change .clear) (.perform question (.ledger (.recent 5)
        (.withAlternate ⟨0⟩ (.perform report .done) (.ledger .counters .done))))
    let second : Program Unit :=
      .perform question (.withAlternate ⟨0⟩
        (.ledger (.apply ⟨false, 0, true⟩) (.perform report .done)) .done)
    let start := session .inert [.addInterpreter .standard, .ofText "sta",
      .addTable (.ofKeywords ["start", "stop"])]
    let other := { start with ledger := ⟨some 0, false, #[], .zero⟩ }
    ((first.run .inert).run start).2.ledger.events.length = 1 ∧
      ((second.run .inert).run other).2.ledger.events.length = 0 ∧
        first.withoutLedger = second.withoutLedger ∧ start.SameButLedger other ∧
          (((first.run .inert).run start).2.interpreters.get ⟨0⟩).result = " or \"start\"" ∧
            Program.SameRuns .inert first second start other := by
  intro question report first second start other
  have operations : first.withoutLedger = second.withoutLedger := rfl
  have alike : start.SameButLedger other := ⟨_, rfl⟩
  exact ⟨by decide +kernel, by decide +kernel, operations, alike, by decide +kernel,
    ledger_ignored .inert operations alike⟩

end CommandWords
