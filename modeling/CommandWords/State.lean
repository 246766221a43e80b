/-
This file defines the state that actions work on. An action ends with a value or a fault, and the
changes that it made before a fault stay.
-/

import CommandWords.Interpreter.Basic
import CommandWords.Ledger
import CommandWords.Value.ValueType

namespace CommandWords

/-- A registry gives types their names. The type that was registered first comes first. -/
abbrev Registry := Fields TypeId

structure State (Data : Type) where
  tables : Store Table
  objects : Store (Content Data)
  cells : Store (Cell Data)
  interpreters : Store (Interpreter (CellRef Data))
  registries : Store Registry
  ledger : Ledger
  /-- All calls of hooks. The latest call comes first. -/
  calls : List (HookCall Data)

namespace State

variable {Data : Type}

def initial : State Data where
  tables := .empty default
  objects := .empty .vacant
  cells := .empty .blank
  interpreters := .empty (.fresh .standard)
  registries := .empty []
  ledger := .initial
  calls := []

def view (state : State Data) : View Data := ⟨state.tables, state.calls⟩

def content (state : State Data) : Payload Data → Content Data
  | .object reference => state.objects.get reference
  | .plain value => .data value

def argument (state : State Data) (payload : Payload Data) : Argument Data :=
  ⟨payload, state.content payload⟩

end State

def Action (Data Value : Type) := State Data → Except Fault Value × State Data

namespace Action

variable {Data Value Result : Type}

def run (action : Action Data Value) (state : State Data) : Except Fault Value × State Data :=
  action state

/-- A fault skips all later actions. -/
def andThen (action : Action Data Value) (next : Value → Action Data Result) :
    Action Data Result := fun state =>
  match action state with
  | (.ok value, changed) => next value changed
  | (.error fault, changed) => (.error fault, changed)

instance : Monad (Action Data) where
  pure value := fun state => (.ok value, state)
  bind := andThen

@[simp] theorem run_pure (value : Value) (state : State Data) :
    (pure value : Action Data Value).run state = (.ok value, state) := rfl

theorem run_bind (action : Action Data Value) (next : Value → Action Data Result)
    (state : State Data) :
    (action >>= next).run state =
      match action.run state with
      | (.ok value, changed) => (next value).run changed
      | (.error fault, changed) => (.error fault, changed) := rfl

theorem run_bind_ok {action : Action Data Value} {state changed : State Data} {value : Value}
    (ended : action.run state = (.ok value, changed)) (next : Value → Action Data Result) :
    (action >>= next).run state = (next value).run changed := by
  rw [run_bind, ended]

theorem run_map (function : Value → Result) (action : Action Data Value) (state : State Data) :
    (function <$> action).run state =
      match action.run state with
      | (.ok value, changed) => (.ok (function value), changed)
      | (.error fault, changed) => (.error fault, changed) := rfl

theorem andThen_pure (action : Action Data Value) :
    andThen action (fun value => (pure value : Action Data Value)) = action := by
  funext present
  change (match action present with
    | (.ok value, changed) => (.ok value, changed)
    | (.error fault, changed) => (.error fault, changed)) = action present
  split <;> simp_all

theorem andThen_assoc {Last : Type} (action : Action Data Value)
    (first : Value → Action Data Result) (second : Result → Action Data Last) :
    andThen (andThen action first) second =
      andThen action fun value => andThen (first value) second := by
  funext present
  simp only [andThen]
  cases action present with
  | mk ending changed => cases ending <;> rfl

instance : LawfulMonad (Action Data) :=
  LawfulMonad.mk' _ andThen_pure (fun _ _ => rfl) andThen_assoc

/-- The present state. -/
def state : Action Data (State Data) := fun present => (.ok present, present)

def change (update : State Data → State Data) : Action Data Unit := fun present =>
  (.ok (), update present)

def fail (fault : Fault) : Action Data Value := fun present => (.error fault, present)

/-- A result that was computed without the state. -/
def ofResult (result : Except Fault Value) : Action Data Value := fun present =>
  (result, present)

/-- The last change is made however the action ends. -/
def ensuring (action : Action Data Value) (last : State Data → State Data) :
    Action Data Value := fun present =>
  let (ending, changed) := action present
  (ending, last changed)

@[simp] theorem run_state (present : State Data) :
    (state : Action Data (State Data)).run present = (.ok present, present) := rfl

@[simp] theorem run_change (update : State Data → State Data) (present : State Data) :
    (change update).run present = (.ok (), update present) := rfl

@[simp] theorem run_fail (fault : Fault) (present : State Data) :
    (fail fault : Action Data Value).run present = (.error fault, present) := rfl

@[simp] theorem run_ofResult (result : Except Fault Value) (present : State Data) :
    (ofResult result : Action Data Value).run present = (result, present) := rfl

@[simp] theorem run_ensuring (action : Action Data Value) (last : State Data → State Data)
    (present : State Data) :
    (ensuring action last).run present =
      ((action.run present).1, last (action.run present).2) := rfl

end Action

end CommandWords
