/-
This file defines runs of operations. A caller makes tables, cells, registries and interpreters and
works on them in any order.
-/

import CommandWords.Interpreter.Command
import CommandWords.Registry

namespace CommandWords

variable {Data : Type}

/-- What a lookup asks about a cell. -/
structure Question (Data : Type) where
  cell : CellRef Data
  table : Ref Table
  stride : Number
  label : String
  exactOnly : Bool

def Question.ask (question : Question Data) (catalogue : Catalogue Data) :
    Action Data (Outcome Number) :=
  Action.lookup catalogue question.cell question.table question.stride question.label
    question.exactOnly

inductive Operation (Data : Type) where
  | addTable (table : Table)
  /-- The caller changes a table in place. -/
  | changeTable (reference : Ref Table) (table : Table)
  | ofText (text : String)
  | ofPayload (type : TypeId) (made : Made Data)
  | readText (cell : CellRef Data)
  | invalidateText (cell : CellRef Data)
  | install (cell : CellRef Data) (type : TypeId) (made : Made Data)
  | freeRepresentation (cell : CellRef Data)
  | duplicate (cell : CellRef Data)
  | dispose (cell : CellRef Data)
  | lookup (question : Question Data)
  | addRegistry (registry : Registry)
  | register (registry : Ref Registry) (type : TypeId)
  | convert (registry : Ref Registry) (cell : CellRef Data) (name : String)
  | showWord (mayQuote : Bool) (cell : CellRef Data)
  | usageText (words : List (CellRef Data)) (options : UsageOptions Data)
  | addInterpreter (configuration : Configuration)
  | writeResult (interpreter : InterpreterRef Data) (result : String)
  | setAlternate (interpreter : InterpreterRef Data) (alternate : Bool)
  | setDispatch (interpreter : InterpreterRef Data) (dispatch : Option (Dispatch (CellRef Data)))
  | resolve (interpreter : InterpreterRef Data) (cell : CellRef Data) (table : Ref Table)
      (stride : Number) (label : String) (exact : Option Bool)
  | reportUsage (interpreter : InterpreterRef Data) (count : Number)
      (words : List (CellRef Data)) (message : Option String)
  | configureLedger (limit : Option Number) (enabled : Option Bool)
  | logEvent (event : Ledger.Event)
  | clearLedger

/-- What an operation gives back to the caller. -/
inductive Answer (Data : Type) where
  | nothing
  | table (reference : Ref Table)
  | cell (reference : CellRef Data)
  | text (value : String)
  | registry (reference : Ref Registry)
  | interpreter (reference : InterpreterRef Data)
  | converted (outcome : Outcome Unit)
  | found (outcome : Outcome Number)
  | resolved (index : Option Number)

namespace Action

def addTable (table : Table) : Action Data (Ref Table) := do
  let before ← state
  change fun present => { present with tables := present.tables.add table }
  pure before.tables.next

def changeTable (reference : Ref Table) (table : Table) : Action Data Unit :=
  change fun present => { present with tables := present.tables.set reference table }

def changeLedger (update : Ledger → Ledger) : Action Data Unit :=
  change fun present => { present with ledger := update present.ledger }

variable (catalogue : Catalogue Data)

/-- A cell with a payload that may be new. -/
def ofMade (type : TypeId) (made : Made Data) : Action Data (CellRef Data) := do
  let payload ← make made
  ofPayload type payload

/-- Install a payload that may be new. -/
def installMade (cell : CellRef Data) (type : TypeId) (made : Made Data) : Action Data Unit := do
  let payload ← make made
  install catalogue cell type payload

end Action

namespace Operation

def perform (catalogue : Catalogue Data) : Operation Data → Action Data (Answer Data)
  | addTable table => Answer.table <$> Action.addTable table
  | changeTable reference table => (fun _ => .nothing) <$> Action.changeTable reference table
  | ofText text => Answer.cell <$> Action.ofText text
  | ofPayload type made => Answer.cell <$> Action.ofMade type made
  | readText cell => Answer.text <$> Action.text catalogue cell
  | invalidateText cell => (fun _ => .nothing) <$> Action.invalidateText cell
  | install cell type made =>
      (fun _ => .nothing) <$> Action.installMade catalogue cell type made
  | freeRepresentation cell => (fun _ => .nothing) <$> Action.freeRepresentation catalogue cell
  | duplicate cell => Answer.cell <$> Action.duplicate catalogue cell
  | dispose cell => (fun _ => .nothing) <$> Action.dispose catalogue cell
  | lookup question => Answer.found <$> question.ask catalogue
  | addRegistry registry => Answer.registry <$> Action.addRegistry registry
  | register registry type => (fun _ => .nothing) <$> Action.register catalogue registry type
  | convert registry cell name => Answer.converted <$> Action.convert catalogue registry cell name
  | showWord mayQuote cell => Answer.text <$> Action.showWord catalogue mayQuote cell
  | usageText words options => Answer.text <$> Action.usageText catalogue words options
  | addInterpreter configuration => Answer.interpreter <$> Action.addInterpreter configuration
  | writeResult interpreter result =>
      (fun _ => .nothing) <$> Action.writeResult interpreter result
  | setAlternate interpreter alternate =>
      (fun _ => .nothing) <$> Action.setAlternate interpreter alternate
  | setDispatch interpreter dispatch =>
      (fun _ => .nothing) <$> Action.setDispatch interpreter dispatch
  | resolve interpreter cell table stride label exact =>
      Answer.resolved <$> Action.resolve catalogue interpreter cell table stride label exact
  | reportUsage interpreter count words message =>
      (fun _ => .nothing) <$> Action.reportUsage catalogue interpreter count words message
  | configureLedger limit enabled =>
      (fun _ => .nothing) <$> Action.changeLedger fun ledger => ledger.configure limit enabled
  | logEvent event => (fun _ => .nothing) <$> Action.record event
  | clearLedger => (fun _ => .nothing) <$> Action.changeLedger Ledger.clear

/-- The question of an operation. An interpreter may ask for exact matches by its settings. -/
def question? (state : State Data) : Operation Data → Option (Question Data)
  | lookup question => some question
  | resolve interpreter cell table stride label exact =>
      let settings := (state.interpreters.get interpreter).configuration.lookup
      some ⟨cell, table, stride, label, exact.getD settings.exactByDefault⟩
  | _ => none

end Operation

/-- One operation of a run together with the state that it finds. -/
structure Step (Data : Type) where
  before : State Data
  operation : Operation Data

namespace Step

variable (catalogue : Catalogue Data) (step : Step Data)

def ending : Except Fault (Answer Data) := ((step.operation.perform catalogue).run step.before).1

def after : State Data := ((step.operation.perform catalogue).run step.before).2

end Step

/-- The state after a run from the start. The latest operation comes first, and an operation that
ends with a fault does not end the run. -/
def session (catalogue : Catalogue Data) : List (Operation Data) → State Data
  | [] => .initial
  | operation :: earlier => Step.after catalogue ⟨session catalogue earlier, operation⟩

/-- A condition holds at every step of a run. -/
def Throughout (catalogue : Catalogue Data) (condition : Step Data → Prop) :
    List (Operation Data) → Prop
  | [] => True
  | operation :: earlier =>
      condition ⟨session catalogue earlier, operation⟩ ∧ Throughout catalogue condition earlier

theorem Throughout.mono {catalogue : Catalogue Data} {strong weak : Step Data → Prop}
    (weaker : ∀ step, strong step → weak step) :
    ∀ {operations}, Throughout catalogue strong operations →
      Throughout catalogue weak operations := by
  intro operations throughout
  induction operations with
  | nil => trivial
  | cons operation earlier inductionHypothesis =>
      obtain ⟨latest, before⟩ := throughout
      exact ⟨weaker _ latest, inductionHypothesis before⟩

instance Throughout.decidable {catalogue : Catalogue Data} {condition : Step Data → Prop}
    [DecidablePred condition] :
    ∀ operations, Decidable (Throughout catalogue condition operations)
  | [] => isTrue trivial
  | _ :: earlier =>
      have : Decidable (Throughout catalogue condition earlier) := decidable earlier
      inferInstanceAs (Decidable (_ ∧ _))

theorem Throughout.of_all {catalogue : Catalogue Data} {condition : Step Data → Prop}
    (always : ∀ step, condition step) (operations : List (Operation Data)) :
    Throughout catalogue condition operations := by
  induction operations with
  | nil => trivial
  | cons operation earlier inductionHypothesis => exact ⟨always _, inductionHypothesis⟩

/-- A catalogue of custom types that hold nothing and take no text. -/
def Catalogue.inert : Catalogue Unit where
  custom number :=
    let name := toString number
    { name
      owns := fun _ => false
      free := fun _ _ => .ok ()
      duplicate := fun _ argument => .ok (.existing argument.payload)
      regenerate := fun _ _ => .ok name
      convert := fun _ => .decided (.ok (.inconvertible name name))
      assign? := none }

end CommandWords
