/-
This file defines programs of operations with nested scopes, between which a caller also uses the
ledger, and the steps that a program takes.
-/

import CommandWords.Proofs.Interpreter.Script
import CommandWords.Proofs.Ledger.BoundedLog

namespace CommandWords

variable {Data : Type}

namespace Ledger

/-- A caller changes a ledger or asks it something. -/
inductive Call where
  | change (move : Move)
  /-- The limit and the switch of a configuration. -/
  | apply (settings : LookupSettings)
  | recent (limit : Number)
  | count (kind : Event.Kind)
  | counters

inductive Reply where
  | nothing
  | events (events : List Event)
  | count (count : Nat)
  | counters (counters : Counters)

namespace Call

def after (ledger : Ledger) : Call → Ledger
  | change move => move.apply ledger
  | apply settings => ledger.configure (some settings.logLimit) (some settings.logEnabled)
  | recent _ => ledger
  | count _ => ledger
  | counters => ledger

def reply (ledger : Ledger) : Call → Reply
  | change _ => .nothing
  | apply _ => .nothing
  | recent limit => .events (ledger.recent limit)
  | count kind => .count (ledger.count kind)
  | counters => .counters ledger.counters

def perform (call : Call) : Action Data Reply := do
  let present ← Action.state
  Action.changeLedger call.after
  pure (call.reply present.ledger)

end Call

end Ledger

/-- A program goes on with its rest after each part. A fault leaves all scopes up to the next
attempt. -/
inductive Program (Data : Type) where
  | done
  | ledger (call : Ledger.Call) (rest : Program Data)
  | perform (operation : Operation Data) (rest : Program Data)
  | throw (fault : Fault)
  | attempt (body rest : Program Data)
  | withDispatch (interpreter : InterpreterRef Data) (dispatch : Dispatch (CellRef Data))
      (body rest : Program Data)
  | withAlternate (interpreter : InterpreterRef Data) (body rest : Program Data)

namespace Program

variable (catalogue : Catalogue Data)

def run : Program Data → Action Data Unit
  | done => pure ()
  | ledger call rest => do
      let _ ← call.perform
      run rest
  | perform operation rest => do
      let _ ← operation.perform catalogue
      run rest
  | throw fault => Action.fail fault
  | attempt body rest => do
      (run body).attempt
      run rest
  | withDispatch interpreter dispatch body rest => do
      Action.withDispatch interpreter dispatch (run body)
      run rest
  | withAlternate interpreter body rest => do
      Action.withAlternate interpreter (run body)
      run rest

/-- After a fault no more steps follow. -/
def unlessFault {Value : Type} (ended : Except Fault Value × State Data)
    (next : State Data → List (Step Data)) : List (Step Data) :=
  match ended with
  | (.ok _, later) => next later
  | (.error _, _) => []

/-- The operations that a program performs, each with the state that it finds. The first one comes
first. -/
def steps : Program Data → State Data → List (Step Data)
  | done, _ => []
  | ledger call rest, state => steps rest { state with ledger := call.after state.ledger }
  | perform operation rest, state =>
      ⟨state, operation⟩ :: unlessFault ((operation.perform catalogue).run state) (steps rest)
  | throw _, _ => []
  | attempt body rest, state => steps body state ++ steps rest ((run catalogue body).run state).2
  | withDispatch interpreter dispatch body rest, state =>
      steps body (state.setDispatch interpreter (some dispatch)) ++
        unlessFault ((Action.withDispatch interpreter dispatch (run catalogue body)).run state)
          (steps rest)
  | withAlternate interpreter body rest, state =>
      steps body (state.setAlternate interpreter true) ++
        unlessFault ((Action.withAlternate interpreter (run catalogue body)).run state)
          (steps rest)

variable {catalogue}

/-- What holds of some steps and of the rest of a program holds of both together, where the rest is
left out after a fault. -/
theorem continued {Value : Type} {relation : List (Step Data) → State Data → State Data → Prop}
    (append : ∀ {steps more start middle last}, relation steps start middle →
      relation more middle last → relation (steps ++ more) start last)
    {steps : List (Step Data)} {start : State Data} {action : Action Data Value}
    {rest : Action Data Unit} {next : State Data → List (Step Data)}
    (first : relation steps start (action.run start).2)
    (follows : relation (next (action.run start).2) (action.run start).2
      (rest.run (action.run start).2).2) :
    relation (steps ++ unlessFault (action.run start) next) start
      ((action >>= fun _ => rest).run start).2 := by
  rw [Action.run_bind]
  generalize action.run start = ended at first follows ⊢
  obtain ⟨ending, later⟩ := ended
  cases ending with
  | ok value => exact append first follows
  | error fault => exact (List.append_nil steps).symm ▸ first

end Program

end CommandWords
