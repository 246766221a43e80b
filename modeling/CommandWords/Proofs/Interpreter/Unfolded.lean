/-
This file unfolds programs with nested scopes into runs of operations. A scope sets a flag before
its body and puts it back afterwards.
-/

import CommandWords.Proofs.Interpreter.Flags
import CommandWords.Proofs.Interpreter.Program

namespace CommandWords.Program

variable {Data : Type} (catalogue : Catalogue Data)

/-- A run goes on after its past with the later operations, takes the steps among others and ends
in the last state. -/
structure Retraces (past later : List (Operation Data)) (steps : List (Step Data))
    (last : State Data) : Prop where
  takes : ∀ step ∈ steps, ∃ rest earlier,
    later = rest ++ step.operation :: earlier ∧ step.before = session catalogue (earlier ++ past)
  ends : last = session catalogue (later ++ past)

/-- Every run that led to the first state can be continued by the steps to the last one. -/
def Unfolds (steps : List (Step Data)) (first last : State Data) : Prop :=
  ∀ past, session catalogue past = first → ∃ later, Retraces catalogue past later steps last

namespace Unfolds

variable {catalogue} {steps more : List (Step Data)} {first middle last : State Data}

theorem refl (state : State Data) : Unfolds catalogue [] state state := by
  intro past led
  exact ⟨[], by simp, led.symm⟩

theorem operation (state : State Data) (operation : Operation Data) :
    Unfolds catalogue [⟨state, operation⟩] state (Step.after catalogue ⟨state, operation⟩) := by
  rintro past rfl
  refine ⟨[operation], ?_, rfl⟩
  intro step member
  rw [List.mem_singleton.mp member]
  exact ⟨[], [], rfl, rfl⟩

/-- Steps of the run may be left unsaid. -/
theorem unsaid (unfolds : Unfolds catalogue steps first last) : Unfolds catalogue [] first last := by
  intro past led
  obtain ⟨later, retraces⟩ := unfolds past led
  exact ⟨later, by simp, retraces.ends⟩

theorem append (unfolds : Unfolds catalogue steps first middle)
    (goesOn : Unfolds catalogue more middle last) : Unfolds catalogue (steps ++ more) first last := by
  intro past led
  obtain ⟨later, retraces⟩ := unfolds past led
  obtain ⟨latest, follows⟩ := goesOn (later ++ past) retraces.ends.symm
  refine ⟨latest ++ later, ?_, ?_⟩
  · intro step member
    rcases List.mem_append.mp member with inFirst | inRest
    · obtain ⟨rest, earlier, rfl, before⟩ := retraces.takes step inFirst
      exact ⟨latest ++ rest, earlier, (List.append_assoc ..).symm, before⟩
    · obtain ⟨rest, earlier, rfl, before⟩ := follows.takes step inRest
      refine ⟨rest, earlier ++ later, by simp, ?_⟩
      rw [before, List.append_assoc]
  · rw [follows.ends, List.append_assoc]

/-- A call that changes the ledger is an operation, and a question to it is none. -/
theorem ledgerCall (call : Ledger.Call) (state : State Data) :
    Unfolds catalogue [] state { state with ledger := call.after state.ledger } := by
  have performed (performs : Operation Data) :
      Unfolds catalogue [] state (Step.after catalogue ⟨state, performs⟩) :=
    (Unfolds.operation state performs).unsaid
  cases call with
  | change move =>
      cases move with
      | record event => exact performed (.logEvent event)
      | configure limit enabled => exact performed (.configureLedger limit enabled)
      | clear => exact performed .clearLedger
  | apply settings =>
      exact performed (.configureLedger (some settings.logLimit) (some settings.logEnabled))
  | recent limit => exact .refl state
  | count kind => exact .refl state
  | counters => exact .refl state

/-- A scope is two operations around its body. -/
theorem scope (opening closing : Operation Data)
    (body : Unfolds catalogue steps (Step.after catalogue ⟨first, opening⟩) middle) :
    Unfolds catalogue steps first (Step.after catalogue ⟨middle, closing⟩) := by
  have opens : Unfolds catalogue [] first (Step.after catalogue ⟨first, opening⟩) :=
    (Unfolds.operation first opening).unsaid
  have closes : Unfolds catalogue [] middle (Step.after catalogue ⟨middle, closing⟩) :=
    (Unfolds.operation middle closing).unsaid
  rw [← List.append_nil steps]
  exact (opens.append body).append closes

end Unfolds

/-- A program with scopes takes its steps in a run of operations. -/
theorem unfolds (program : Program Data) (start : State Data) :
    Unfolds catalogue (program.steps catalogue start) start
      ((program.run catalogue).run start).2 := by
  induction program generalizing start with
  | done => exact .refl start
  | ledger call rest inductionHypothesis =>
      exact (Unfolds.ledgerCall call start).append (inductionHypothesis _)
  | perform operation rest inductionHypothesis =>
      have performed : Unfolds catalogue [⟨start, operation⟩] start
          ((operation.perform catalogue).run start).2 := .operation start operation
      exact continued Unfolds.append performed (inductionHypothesis _)
  | throw fault => exact .refl start
  | attempt body rest bodyHypothesis restHypothesis =>
      exact (bodyHypothesis start).append (restHypothesis _)
  | withDispatch interpreter dispatch body rest bodyHypothesis restHypothesis =>
      have inside := bodyHypothesis (start.setDispatch interpreter (some dispatch))
      have scope : Unfolds catalogue _ start
          ((Action.withDispatch interpreter dispatch (body.run catalogue)).run start).2 :=
        .scope (.setDispatch interpreter (some dispatch))
          (.setDispatch interpreter (start.interpreters.get interpreter).dispatch) inside
      exact continued Unfolds.append scope (restHypothesis _)
  | withAlternate interpreter body rest bodyHypothesis restHypothesis =>
      have inside := bodyHypothesis (start.setAlternate interpreter true)
      have scope : Unfolds catalogue _ start
          ((Action.withAlternate interpreter (body.run catalogue)).run start).2 :=
        .scope (.setAlternate interpreter true)
          (.setAlternate interpreter (start.interpreters.get interpreter).alternate) inside
      exact continued Unfolds.append scope (restHypothesis _)

end CommandWords.Program
