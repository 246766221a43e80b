/-
This file says what an interpreter does with its flags: the dispatch in effect and the mode in which
usage errors are alternatives.
-/

import CommandWords.Proofs.Session.Operation

namespace CommandWords

variable {Data : Type}

/-- Stores of the same size with the same entries are the same. -/
theorem Store.eq_of_get {Entry : Type} {first second : Store Entry}
    (size : first.size = second.size)
    (entries : ∀ reference, first.get reference = second.get reference) : first = second := by
  obtain ⟨firstSize, firstGet⟩ := first
  obtain ⟨secondSize, secondGet⟩ := second
  cases size
  congr
  funext reference
  exact entries reference

namespace State

def setDispatch (state : State Data) (interpreter : InterpreterRef Data)
    (dispatch : Option (Dispatch (CellRef Data))) : State Data :=
  state.updateInterpreter interpreter fun current => { current with dispatch }

def setAlternate (state : State Data) (interpreter : InterpreterRef Data) (alternate : Bool) :
    State Data :=
  state.updateInterpreter interpreter fun current => { current with alternate }

@[simp] theorem dispatch_setDispatch (state : State Data) (interpreter : InterpreterRef Data)
    (dispatch : Option (Dispatch (CellRef Data))) :
    ((state.setDispatch interpreter dispatch).interpreters.get interpreter).dispatch =
      dispatch := by
  simp [setDispatch, updateInterpreter]

@[simp] theorem alternate_setAlternate (state : State Data) (interpreter : InterpreterRef Data)
    (alternate : Bool) :
    ((state.setAlternate interpreter alternate).interpreters.get interpreter).alternate =
      alternate := by
  simp [setAlternate, updateInterpreter]

theorem updateInterpreter_twice (state : State Data) (interpreter : InterpreterRef Data)
    (first second : Interpreter (CellRef Data) → Interpreter (CellRef Data)) :
    (state.updateInterpreter interpreter first).updateInterpreter interpreter second =
      state.updateInterpreter interpreter (second ∘ first) := by
  simp only [updateInterpreter, Store.get_set_self, Store.set_set, Function.comp_apply]

/-- The options of a usage error that an interpreter reports. -/
def usageOptions (state : State Data) (interpreter : InterpreterRef Data)
    (message : Option String) : UsageOptions Data :=
  let current := state.interpreters.get interpreter
  { message
    dispatch := current.dispatch
    previous := if current.alternate then some current.result else none
    literalFirstWord := current.configuration.usage.literalFirstWord }

theorem usageOptions_setDispatch (state : State Data) (interpreter : InterpreterRef Data)
    (message : Option String) (dispatch : Option (Dispatch (CellRef Data))) :
    (state.setDispatch interpreter dispatch).usageOptions interpreter message =
      { state.usageOptions interpreter message with dispatch } := by
  simp [usageOptions, setDispatch, updateInterpreter]

end State

namespace Action

variable {Value : Type} (catalogue : Catalogue Data) (interpreter : InterpreterRef Data)

theorem run_reportUsage (count : Number) (words : List (CellRef Data)) (message : Option String)
    (state : State Data) :
    (reportUsage catalogue interpreter count words message).run state =
      (usageText catalogue (firstWords count words) (state.usageOptions interpreter message) >>=
        writeResult interpreter).run state := rfl

/-- Whatever the body does to the dispatch, the old one is back afterwards. -/
theorem run_withDispatch (dispatch : Dispatch (CellRef Data)) (body : Action Data Value)
    (state : State Data) :
    (withDispatch interpreter dispatch body).run state =
      let ended := body.run (state.setDispatch interpreter (some dispatch))
      (ended.1, ended.2.setDispatch interpreter (state.interpreters.get interpreter).dispatch) :=
  rfl

theorem run_withAlternate (body : Action Data Value) (state : State Data) :
    (withAlternate interpreter body).run state =
      let ended := body.run (state.setAlternate interpreter true)
      (ended.1, ended.2.setAlternate interpreter (state.interpreters.get interpreter).alternate) :=
  rfl

end Action

end CommandWords
