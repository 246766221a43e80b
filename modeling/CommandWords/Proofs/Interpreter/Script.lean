/-
This file defines scripts of steps with nested scopes, and reads the flags of an interpreter off the
scopes that are open at a step.
-/

import CommandWords.Proofs.Interpreter.Flags

namespace CommandWords

variable {Data : Type}

/-- A fault leaves all scopes up to the next attempt. -/
inductive Script (Data : Type) where
  | skip
  | step (operation : Operation Data)
  | throw (fault : Fault)
  | andThen (first rest : Script Data)
  | attempt (body : Script Data)
  | withDispatch (interpreter : InterpreterRef Data) (dispatch : Dispatch (CellRef Data))
      (body : Script Data)
  | withAlternate (interpreter : InterpreterRef Data) (body : Script Data)

/-- A fault of the action is caught, and its changes stay. -/
def Action.attempt (action : Action Data Unit) : Action Data Unit := fun present =>
  (.ok (), (action.run present).2)

/-- A scope that is open at a step of a script. -/
inductive Scope (Data : Type) where
  | dispatch (interpreter : InterpreterRef Data) (dispatch : Dispatch (CellRef Data))
  | alternate (interpreter : InterpreterRef Data)

namespace Scope

def interpreter : Scope Data → InterpreterRef Data
  | dispatch interpreter _ => interpreter
  | alternate interpreter => interpreter

/-- The dispatch that a scope sets for an interpreter. -/
def dispatch? (interpreter : InterpreterRef Data) : Scope Data → Option (Dispatch (CellRef Data))
  | dispatch other applied => if other = interpreter then some applied else none
  | alternate _ => none

/-- Whether a scope makes the usage errors of an interpreter alternatives. -/
def isAlternate (interpreter : InterpreterRef Data) : Scope Data → Bool
  | dispatch _ _ => false
  | alternate other => other = interpreter

variable (scopes : List (Scope Data)) (start : Store (Interpreter (CellRef Data)))
  (interpreter : InterpreterRef Data)

/-- The dispatch of the innermost scope that sets one, or else the one at the start. The innermost
scope comes first. -/
def dispatchWithin : Option (Dispatch (CellRef Data)) :=
  (scopes.findSome? (dispatch? interpreter)).or (start.get interpreter).dispatch

/-- Usage errors are alternatives inside a scope that says so, or if they were at the start. -/
def alternateWithin : Bool :=
  scopes.any (isAlternate interpreter) || (start.get interpreter).alternate

end Scope

/-- The operation assigns a flag directly. -/
def Operation.Assigns : Operation Data → Prop
  | setAlternate _ _ => True
  | setDispatch _ _ => True
  | _ => False

/-- The interpreter that an operation reports wrong usage to. -/
def Operation.reporter? : Operation Data → Option (InterpreterRef Data)
  | reportUsage interpreter _ _ _ => some interpreter
  | _ => none

namespace Action

variable (catalogue : Catalogue Data) (scopes : List (Scope Data))
  (start : Store (Interpreter (CellRef Data)))

/-- A report reads its flags off the open scopes and the start, not off the interpreter. -/
def reportWithin (interpreter : InterpreterRef Data) (count : Number)
    (words : List (CellRef Data)) (message : Option String) : Action Data Unit := do
  let current ← interpreterState interpreter
  let result ← usageText catalogue (firstWords count words)
    { message
      dispatch := Scope.dispatchWithin scopes start interpreter
      previous :=
        if Scope.alternateWithin scopes start interpreter then some current.result else none
      literalFirstWord := current.configuration.usage.literalFirstWord }
  writeResult interpreter result

/-- Reports are the only operations that read a flag. -/
def performWithin : Operation Data → Action Data Unit
  | .reportUsage interpreter count words message =>
      reportWithin catalogue scopes start interpreter count words message
  | operation => (fun _ => ()) <$> operation.perform catalogue

end Action

namespace Script

variable (catalogue : Catalogue Data)

def run : Script Data → Action Data Unit
  | skip => pure ()
  | step operation => (fun _ => ()) <$> operation.perform catalogue
  | throw fault => Action.fail fault
  | andThen first rest => do
      run first
      run rest
  | attempt body => (run body).attempt
  | withDispatch interpreter dispatch body => Action.withDispatch interpreter dispatch (run body)
  | withAlternate interpreter body => Action.withAlternate interpreter (run body)

/-- The script as its text reads. A scope is noted for its body, and no flag is ever changed. -/
def runWithin (start : Store (Interpreter (CellRef Data))) :
    List (Scope Data) → Script Data → Action Data Unit
  | _, skip => pure ()
  | scopes, step operation => Action.performWithin catalogue scopes start operation
  | _, throw fault => Action.fail fault
  | scopes, andThen first rest => do
      runWithin start scopes first
      runWithin start scopes rest
  | scopes, attempt body => (runWithin start scopes body).attempt
  | scopes, withDispatch interpreter dispatch body =>
      runWithin start (.dispatch interpreter dispatch :: scopes) body
  | scopes, withAlternate interpreter body =>
      runWithin start (.alternate interpreter :: scopes) body

/-- No step assigns a flag directly. -/
def Unassigned : Script Data → Prop
  | skip => True
  | step operation => ¬ operation.Assigns
  | throw _ => True
  | andThen first rest => first.Unassigned ∧ rest.Unassigned
  | attempt body => body.Unassigned
  | withDispatch _ _ body => body.Unassigned
  | withAlternate _ body => body.Unassigned

/-- The scopes and the reports belong to interpreters that exist. -/
def Among (interpreters : Store (Interpreter (CellRef Data))) : Script Data → Prop
  | skip => True
  | step operation =>
      ∀ interpreter, operation.reporter? = some interpreter → interpreters.has interpreter
  | throw _ => True
  | andThen first rest => first.Among interpreters ∧ rest.Among interpreters
  | attempt body => body.Among interpreters
  | withDispatch interpreter _ body => interpreters.has interpreter ∧ body.Among interpreters
  | withAlternate interpreter body => interpreters.has interpreter ∧ body.Among interpreters

/-- A step raises a fault that no attempt catches, and the state is what it left. -/
inductive Raises : Script Data → State Data → Fault → State Data → Prop
  | thrown {fault : Fault} {state : State Data} : Raises (throw fault) state fault state
  | failed {operation : Operation Data} {state raised : State Data} {fault : Fault}
      (ended : (operation.perform catalogue).run state = (.error fault, raised)) :
      Raises (step operation) state fault raised
  | first {first rest : Script Data} {state raised : State Data} {fault : Fault}
      (inside : Raises first state fault raised) : Raises (andThen first rest) state fault raised
  | rest {first rest : Script Data} {state later raised : State Data} {fault : Fault}
      (ended : (first.run catalogue).run state = (.ok (), later))
      (inside : Raises rest later fault raised) : Raises (andThen first rest) state fault raised
  | dispatch {interpreter : InterpreterRef Data} {applied : Dispatch (CellRef Data)}
      {body : Script Data} {state raised : State Data} {fault : Fault}
      (inside : Raises body (state.setDispatch interpreter (some applied)) fault raised) :
      Raises (withDispatch interpreter applied body) state fault raised
  | alternate {interpreter : InterpreterRef Data} {body : Script Data}
      {state raised : State Data} {fault : Fault}
      (inside : Raises body (state.setAlternate interpreter true) fault raised) :
      Raises (withAlternate interpreter body) state fault raised

end Script

end CommandWords
