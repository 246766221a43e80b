/-
This file lets an interpreter look up keywords and report wrong usage. Errors land in its result.
-/

import CommandWords.Lookup
import CommandWords.Usage.Format

namespace CommandWords

variable {Data : Type}

abbrev InterpreterRef (Data : Type) := Ref (Interpreter (CellRef Data))

def State.updateInterpreter (state : State Data) (interpreter : InterpreterRef Data)
    (update : Interpreter (CellRef Data) → Interpreter (CellRef Data)) : State Data :=
  let updated := update (state.interpreters.get interpreter)
  { state with interpreters := state.interpreters.set interpreter updated }

namespace Action

def addInterpreter (configuration : Configuration) : Action Data (InterpreterRef Data) := do
  let before ← state
  change fun present =>
    { present with interpreters := present.interpreters.add (.fresh configuration) }
  pure before.interpreters.next

variable (catalogue : Catalogue Data) (interpreter : InterpreterRef Data)

def interpreterState : Action Data (Interpreter (CellRef Data)) := do
  let present ← state
  pure (present.interpreters.get interpreter)

def writeResult (result : String) : Action Data Unit :=
  change fun present =>
    present.updateInterpreter interpreter fun current => { current with result }

def clearResult : Action Data Unit := writeResult interpreter ""

def setAlternate (alternate : Bool) : Action Data Unit :=
  change fun present =>
    present.updateInterpreter interpreter fun current => { current with alternate }

def setDispatch (dispatch : Option (Dispatch (CellRef Data))) : Action Data Unit :=
  change fun present =>
    present.updateInterpreter interpreter fun current => { current with dispatch }

/-- A failure leaves its message, and a success leaves the result alone. -/
def settle : Outcome Number → Action Data (Option Number)
  | .done index _ => pure (some index)
  | .fail failure _ => do
      writeResult interpreter failure.message
      pure none

/-- A call that does not ask for exact matches follows the settings. -/
def resolve (reference : CellRef Data) (table : Ref Table) (stride : Number) (label : String)
    (exact : Option Bool) : Action Data (Option Number) := do
  let current ← interpreterState interpreter
  let exactOnly := exact.getD current.configuration.lookup.exactByDefault
  let outcome ← lookup catalogue reference table stride label exactOnly
  settle interpreter outcome

/-- The first words of a command. A negative count takes none. -/
def firstWords (count : Number) (words : List (CellRef Data)) : List (CellRef Data) :=
  if count.lessThan 0 then [] else words.take (count.position words.length)

def reportUsage (count : Number) (words : List (CellRef Data)) (message : Option String) :
    Action Data Unit := do
  let current ← interpreterState interpreter
  let result ← usageText catalogue (firstWords count words)
    { message
      dispatch := current.dispatch
      previous := if current.alternate then some current.result else none
      literalFirstWord := current.configuration.usage.literalFirstWord }
  writeResult interpreter result

variable {Value : Type}

/-- The dispatch is in effect during the body, and the old one is back afterwards. -/
def withDispatch (dispatch : Dispatch (CellRef Data)) (body : Action Data Value) :
    Action Data Value := do
  let current ← interpreterState interpreter
  setDispatch interpreter (some dispatch)
  body.ensuring fun later =>
    later.updateInterpreter interpreter fun inner => { inner with dispatch := current.dispatch }

/-- Usage errors of the body are alternatives of one message. -/
def withAlternate (body : Action Data Value) : Action Data Value := do
  let current ← interpreterState interpreter
  setAlternate interpreter true
  body.ensuring fun later =>
    later.updateInterpreter interpreter fun inner => { inner with alternate := current.alternate }

end Action

end CommandWords
