/-
This file shows that the ledger of a run logs the latest of the events that its lookups and its
callers recorded.
-/

import CommandWords.Proofs.Ledger.BoundedLog
import CommandWords.Proofs.Lookup.Accounts

namespace CommandWords

variable {Data : Type} {catalogue : Catalogue Data}

/-- The kind of refusal that a reason stands for. -/
def Reason.misfit? : Reason → Option Message.Misfit
  | noMatch => some .bad
  | ambiguous => some .ambiguous
  | _ => none

theorem Message.Misfit.misfit?_reason (misfit : Message.Misfit) :
    misfit.reason.misfit? = some misfit := by
  cases misfit <;> rfl

namespace Question

variable (catalogue)

/-- The text that a lookup compares. -/
def key (question : Question Data) (state : State Data) : String :=
  match ((Action.text catalogue question.cell).run state).1 with
  | .ok key => key
  | .error _ => ""

/-- The event that an outcome is worth. -/
def event? (question : Question Data) (state : State Data) : Outcome Number → Option Ledger.Event
  | .done index effort =>
      if effort.cached = some true then some (.hit question.label index)
      else effort.comparisons.map fun comparisons =>
        .scan question.label (question.key catalogue state) index comparisons
  | .fail failure effort =>
      failure.reason.misfit?.bind fun misfit =>
        effort.comparisons.map fun comparisons =>
          .fail question.label (question.key catalogue state) misfit comparisons

variable {catalogue} {question : Question Data} {state : State Data}

theorem key_eq {key : String}
    (read : ((Action.text catalogue question.cell).run state).1 = .ok key) :
    question.key catalogue state = key := by
  rw [Question.key, read]

theorem Tells.event? {outcome : Outcome Number} {event : Ledger.Event}
    (tells : question.Tells catalogue state outcome event) :
    question.event? catalogue state outcome = some event := by
  cases tells with
  | hit => simp only [Question.event?, if_true]
  | scan read =>
      simp only [Question.event?, key_eq read, Option.some.injEq, Bool.false_eq_true, if_false,
        Option.map_some]
  | @fail key misfit failure count read reason =>
      simp only [Question.event?, key_eq read, reason, misfit.misfit?_reason, Option.bind_some,
        Option.map_some]

theorem event?_of_malformed {failure : Failure Diagnostic} {effort : Effort}
    (malformed : failure.reason = .invariantViolated) :
    question.event? catalogue state (.fail failure effort) = none := by
  rw [Question.event?, malformed]
  rfl

end Question

namespace Step

variable (catalogue)

/-- The event that a step records as a lookup. -/
def event? (step : Step Data) : Option Ledger.Event :=
  (step.returned? catalogue).bind fun (question, outcome) =>
    question.event? catalogue step.before outcome

/-- What a step does to the ledger. -/
def move? (step : Step Data) : Option Ledger.Move :=
  match step.operation with
  | .configureLedger limit enabled => some (.configure limit enabled)
  | .logEvent event => some (.record event)
  | .clearLedger => some .clear
  | _ => (step.event? catalogue).map .record

theorem move?_of_apart {step : Step Data} (apart : ¬ step.operation.WorksOnLedger) :
    step.move? catalogue = (step.event? catalogue).map .record := by
  unfold move?
  split
  next configures =>
    rw [configures] at apart
    exact absurd trivial apart
  next logs =>
    rw [logs] at apart
    exact absurd trivial apart
  next clears =>
    rw [clears] at apart
    exact absurd trivial apart
  next => rfl

/-- The ledger changes by the one move of a step, if there is one. -/
theorem ledger_after (step : Step Data) :
    (step.after catalogue).ledger =
      match step.move? catalogue with
      | some move => move.apply step.before.ledger
      | none => step.before.ledger := by
  by_cases works : step.operation.WorksOnLedger
  · obtain ⟨state, operation⟩ := step
    cases operation with
    | configureLedger limit enabled => rfl
    | logEvent event => rfl
    | clearLedger => rfl
    | _ => cases works
  · rw [move?_of_apart catalogue works, event?]
    cases asks : step.operation.question? step.before with
    | none =>
        simp only [returned?, asks]
        exact ledger_of_unasked asks works
    | some question =>
        have records := records catalogue asks
        unfold returned?
        simp only [asks]
        generalize ((question.ask catalogue).run step.before).1 = ending at records ⊢
        generalize (step.after catalogue).ledger = ledger at records ⊢
        cases records with
        | told tells =>
            simp only [Option.bind_some, tells.event?, Option.map_some]
            rfl
        | malformed reason =>
            simp only [Option.bind_some, Question.event?_of_malformed reason, Option.map_none]
        | thrown => rfl

end Step

variable (catalogue)

/-- What the steps of a run do to the ledger. The latest move comes first. -/
def moves : List (Operation Data) → List Ledger.Move
  | [] => []
  | operation :: earlier =>
      (Step.move? catalogue ⟨session catalogue earlier, operation⟩).toList ++ moves earlier

theorem session_ledger (operations : List (Operation Data)) :
    (session catalogue operations).ledger = Ledger.run (moves catalogue operations) := by
  induction operations with
  | nil => rfl
  | cons operation earlier inductionHypothesis =>
      rw [session, Step.ledger_after, moves]
      cases Step.move? catalogue ⟨session catalogue earlier, operation⟩ with
      | none => exact inductionHypothesis
      | some move => exact congrArg move.apply inductionHypothesis

/-- The log of a run is a bounded end of the events that were recorded since the ledger was
cleared. Events that were dropped stay away, and no more are dropped than the limit demands. -/
theorem log_keeps_latest (operations : List (Operation Data)) :
    (session catalogue operations).ledger.LogsLatest (moves catalogue operations) := by
  rw [session_ledger]
  exact Ledger.logsLatest_run _

/-- A limit of one and a half events, an event while logging is off, and room for two more events
that does not bring the first one back. -/
theorem log_keeps_latest_raised :
    let half : Number := .finite false (Number.unit + Number.unit / 2)
    let operations : List (Operation Unit) :=
      [.lookup ⟨⟨1⟩, ⟨0⟩, 1, "option", false⟩, .configureLedger (some 3) (some true),
        .lookup ⟨⟨0⟩, ⟨0⟩, 1, "option", true⟩, .configureLedger none (some false),
        .lookup ⟨⟨0⟩, ⟨0⟩, 1, "option", false⟩, .lookup ⟨⟨0⟩, ⟨0⟩, 1, "option", false⟩,
        .configureLedger (some half) none, .clearLedger, .ofText "x", .ofText "sta",
        .addTable (.ofKeywords ["start", "stop"])]
    (session .inert operations).ledger.LogsLatest (moves .inert operations) ∧
      (session .inert operations).ledger.events =
        [.hit "option" 0, .fail "option" "x" .bad 2] ∧
      Ledger.recorded (moves .inert operations) =
        [.scan "option" "sta" 0 2, .hit "option" 0, .fail "option" "x" .bad 2] ∧
      (session .inert operations).ledger.recent (.natural 1) = [.fail "option" "x" .bad 2] := by
  intro half operations
  refine ⟨log_keeps_latest .inert operations, ?_, ?_, ?_⟩
  · decide +kernel
  · decide +kernel
  · decide +kernel

end CommandWords
