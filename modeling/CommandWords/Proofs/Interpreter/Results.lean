/-
This file says which operations write the result of an interpreter, and that between the steps of a
program nothing is written into it.
-/

import CommandWords.Proofs.Interpreter.Program
import CommandWords.Proofs.Session.Agreement
import CommandWords.Proofs.Session.Consulting

namespace CommandWords

variable {Data : Type} {catalogue : Catalogue Data}

/-- The second state has these interpreters, whatever the first one has. -/
def Pairing.fixed (interpreters : Store (Interpreter (CellRef Data))) : Pairing Data :=
  ⟨fun _ second => second = interpreters, fun _ _ => True⟩

theorem Pairing.interpreters_of_fixed {interpreters : Store (Interpreter (CellRef Data))}
    {first second : State Data} (pairs : (Pairing.fixed interpreters).Pairs first second) :
    second.interpreters = interpreters := by
  cases pairs with
  | beside paired _ => exact paired

theorem Pairing.records_fixed {interpreters : Store (Interpreter (CellRef Data))} :
    (Pairing.fixed interpreters).Records := fun _ _ => trivial

/-- An action that agrees whatever the interpreters are leaves them alone. -/
theorem Action.interpreters_of_agrees {Value : Type} {action : Action Data Value}
    (agrees : ∀ interpreters, action.Agrees (.fixed interpreters)) (state : State Data) :
    (action.run state).2.interpreters = state.interpreters := by
  have pairs : (Pairing.fixed state.interpreters).Pairs state
      (state.beside state.interpreters state.ledger) := .beside rfl trivial
  obtain ⟨_, later⟩ := agrees state.interpreters state _ pairs
  exact Pairing.interpreters_of_fixed later

namespace Step

variable (catalogue : Catalogue Data) (step : Step Data)

/-- The interpreter that a step writes into, and what becomes its result. -/
def written? : Option (InterpreterRef Data × String) :=
  match step.operation with
  | .writeResult interpreter result => some (interpreter, result)
  | .resolve interpreter cell table stride label exact =>
      let settings := (step.before.interpreters.get interpreter).configuration.lookup
      let question : Question Data :=
        ⟨cell, table, stride, label, exact.getD settings.exactByDefault⟩
      match ((question.ask catalogue).run step.before).1 with
      | .ok (.fail failure _) => some (interpreter, failure.message)
      | _ => none
  | .reportUsage interpreter count words message =>
      let options := step.before.usageOptions interpreter message
      let text := Action.usageText catalogue (Action.firstWords count words) options
      (text.run step.before).1.toOption.map fun result => (interpreter, result)
  | _ => none

end Step

/-- The interpreters after the write of a result. -/
def Store.written (interpreters : Store (Interpreter (CellRef Data))) :
    Option (InterpreterRef Data × String) → Store (Interpreter (CellRef Data))
  | some (interpreter, result) =>
      interpreters.set interpreter { interpreters.get interpreter with result }
  | none => interpreters

theorem Store.result_written (interpreters : Store (Interpreter (CellRef Data)))
    (written : Option (InterpreterRef Data × String)) (interpreter : InterpreterRef Data) :
    ((interpreters.written written).get interpreter).result =
      (written.bind fun written =>
        if written.1 = interpreter then some written.2 else none).getD
          (interpreters.get interpreter).result := by
  cases written with
  | none => rfl
  | some written =>
      obtain ⟨target, result⟩ := written
      by_cases same : target = interpreter
      · subst same
        simp [Store.written]
      · simp [Store.written, same, Store.get_set_other _ (Ne.symm same)]

namespace State

/-- An update of the flags of an interpreter leaves all results. -/
theorem result_updateInterpreter (state : State Data) (target interpreter : InterpreterRef Data)
    {update : Interpreter (CellRef Data) → Interpreter (CellRef Data)}
    (kept : ∀ current, (update current).result = current.result) :
    ((state.updateInterpreter target update).interpreters.get interpreter).result =
      (state.interpreters.get interpreter).result := by
  unfold updateInterpreter
  by_cases same : interpreter = target
  · subst same
    rw [Store.get_set_self, kept]
  · rw [Store.get_set_other _ same]

theorem result_setAlternate (state : State Data) (target interpreter : InterpreterRef Data)
    (alternate : Bool) :
    ((state.setAlternate target alternate).interpreters.get interpreter).result =
      (state.interpreters.get interpreter).result :=
  state.result_updateInterpreter target interpreter fun _ => rfl

theorem result_setDispatch (state : State Data) (target interpreter : InterpreterRef Data)
    (dispatch : Option (Dispatch (CellRef Data))) :
    ((state.setDispatch target dispatch).interpreters.get interpreter).result =
      (state.interpreters.get interpreter).result :=
  state.result_updateInterpreter target interpreter fun _ => rfl

end State

namespace Action

variable {before : State Data}

/-- The text of an action is written if there is one. -/
theorem interpreters_write {action : Action Data String}
    (kept : (action.run before).2.interpreters = before.interpreters)
    (interpreter : InterpreterRef Data) :
    ((action >>= writeResult interpreter).run before).2.interpreters =
      before.interpreters.written
        ((action.run before).1.toOption.map fun result => (interpreter, result)) := by
  rw [run_bind, ← kept]
  cases action.run before with
  | mk ending later => cases ending <;> rfl

theorem interpreters_settle {action : Action Data (Outcome Number)}
    (kept : (action.run before).2.interpreters = before.interpreters)
    (interpreter : InterpreterRef Data) :
    ((action >>= settle interpreter).run before).2.interpreters =
      before.interpreters.written
        (match (action.run before).1 with
        | .ok (.fail failure _) => some (interpreter, failure.message)
        | _ => none) := by
  rw [run_bind, ← kept]
  cases action.run before with
  | mk ending later =>
      cases ending with
      | error fault => rfl
      | ok outcome => cases outcome <;> rfl

end Action

namespace Step

variable (step : Step Data)

/-- The interpreters that an operation leaves. -/
theorem interpreters_after (catalogue : Catalogue Data) :
    (step.after catalogue).interpreters =
      match step.operation with
      | .addInterpreter configuration => step.before.interpreters.add (.fresh configuration)
      | .setAlternate interpreter alternate =>
          (step.before.setAlternate interpreter alternate).interpreters
      | .setDispatch interpreter dispatch =>
          (step.before.setDispatch interpreter dispatch).interpreters
      | _ => step.before.interpreters.written (step.written? catalogue) := by
  obtain ⟨before, operation⟩ := step
  have kept {action : Action Data (Answer Data)}
      (agrees : ∀ interpreters, action.Agrees (.fixed interpreters)) :
      (action.run before).2.interpreters = before.interpreters :=
    Action.interpreters_of_agrees agrees before
  cases operation with
  | addTable table => rfl
  | changeTable reference table => rfl
  | ofText text => rfl
  | ofPayload type made => exact kept fun _ => (Action.agrees_ofMade type made).map _
  | readText cell => exact kept fun _ => (Action.agrees_text catalogue cell).map _
  | invalidateText cell => exact kept fun _ => (Action.agrees_invalidateText cell).map _
  | install cell type made =>
      exact kept fun _ => (Action.agrees_installMade catalogue cell type made).map _
  | freeRepresentation cell =>
      exact kept fun _ => (Action.agrees_freeRepresentation catalogue cell).map _
  | duplicate cell => exact kept fun _ => (Action.agrees_duplicate catalogue cell).map _
  | dispose cell => exact kept fun _ => (Action.agrees_dispose catalogue cell).map _
  | lookup question =>
      exact kept fun _ => (Action.agrees_ask Pairing.records_fixed catalogue question).map _
  | addRegistry registry => rfl
  | register registry type =>
      exact kept fun _ => (Action.agrees_register catalogue registry type).map _
  | convert registry cell name =>
      exact kept fun _ => (Action.agrees_convert catalogue cell registry name).map _
  | showWord mayQuote cell =>
      exact kept fun _ => (Action.agrees_showWord catalogue cell mayQuote).map _
  | usageText words options =>
      exact kept fun _ => (Action.agrees_usageText catalogue words options).map _
  | writeResult interpreter result => rfl
  | resolve interpreter cell table stride label exact =>
      let settings := (before.interpreters.get interpreter).configuration.lookup
      let question : Question Data :=
        ⟨cell, table, stride, label, exact.getD settings.exactByDefault⟩
      have asked : ((question.ask catalogue).run before).2.interpreters = before.interpreters :=
        Action.interpreters_of_agrees
          (fun _ => Action.agrees_ask Pairing.records_fixed catalogue question) before
      rw [Step.after, Operation.perform, Action.run_map_after]
      exact Action.interpreters_settle asked interpreter
  | addInterpreter configuration => rfl
  | setAlternate interpreter alternate => rfl
  | setDispatch interpreter dispatch => rfl
  | reportUsage interpreter count words message =>
      let printed := Action.usageText catalogue (Action.firstWords count words)
        (before.usageOptions interpreter message)
      have shown : (printed.run before).2.interpreters = before.interpreters :=
        Action.interpreters_of_agrees (fun _ => Action.agrees_usageText catalogue _ _) before
      rw [Step.after, Operation.perform, Action.run_map_after]
      exact Action.interpreters_write shown interpreter
  | configureLedger limit enabled => rfl
  | logEvent event => rfl
  | clearLedger => rfl

/-- What becomes the result of an interpreter. -/
def resultOf? (catalogue : Catalogue Data) (interpreter : InterpreterRef Data) : Option String :=
  (step.written? catalogue).bind fun written =>
    if written.1 = interpreter then some written.2 else none

variable {interpreter : InterpreterRef Data}

theorem exists_after (exist : step.before.interpreters.has interpreter) :
    (step.after catalogue).interpreters.has interpreter := by
  rw [interpreters_after]
  split
  · exact Store.has_add exist _
  · exact exist
  · exact exist
  · unfold Store.written
    split
    · exact exist
    · exact exist

/-- A result stays until a step writes into it. -/
theorem result_after (exist : step.before.interpreters.has interpreter) :
    ((step.after catalogue).interpreters.get interpreter).result =
      (step.resultOf? catalogue interpreter).getD
        (step.before.interpreters.get interpreter).result := by
  have unwritten (none_ : step.written? catalogue = none) :
      step.resultOf? catalogue interpreter = none := by rw [resultOf?, none_]; rfl
  rw [interpreters_after]
  split
  next configuration adds =>
    rw [unwritten (by rw [written?, adds]), Store.get_add_of_has exist]
    rfl
  next target alternate sets =>
    rw [unwritten (by rw [written?, sets]), State.result_setAlternate]
    rfl
  next target dispatch sets =>
    rw [unwritten (by rw [written?, sets]), State.result_setDispatch]
    rfl
  next => exact Store.result_written step.before.interpreters _ interpreter

end Step

/-- Every step finds the result that the step before it left. -/
inductive Links (catalogue : Catalogue Data) (interpreter : InterpreterRef Data) :
    String → List (Step Data) → String → Prop
  | nil (result : String) : Links catalogue interpreter result [] result
  | cons (step : Step Data) {rest : List (Step Data)} {last : String}
      (exist : step.before.interpreters.has interpreter)
      (later : Links catalogue interpreter
        ((step.after catalogue).interpreters.get interpreter).result rest last) :
      Links catalogue interpreter (step.before.interpreters.get interpreter).result (step :: rest)
        last

theorem Links.append {interpreter : InterpreterRef Data} {first middle last : String}
    {steps more : List (Step Data)} (links : Links catalogue interpreter first steps middle)
    (next : Links catalogue interpreter middle more last) :
    Links catalogue interpreter first (steps ++ more) last := by
  induction links with
  | nil result => exact next
  | cons step exist later inductionHypothesis => exact .cons step exist (inductionHypothesis next)

namespace Program

variable {interpreter : InterpreterRef Data}

/-- The steps lead from the result in one state to the result in another. -/
structure Leads (catalogue : Catalogue Data) (interpreter : InterpreterRef Data)
    (steps : List (Step Data)) (start last : State Data) : Prop where
  exist : last.interpreters.has interpreter
  links : Links catalogue interpreter (start.interpreters.get interpreter).result steps
    (last.interpreters.get interpreter).result

theorem Leads.append {steps more : List (Step Data)} {start middle last : State Data}
    (leads : Leads catalogue interpreter steps start middle)
    (next : Leads catalogue interpreter more middle last) :
    Leads catalogue interpreter (steps ++ more) start last :=
  ⟨next.exist, leads.links.append next.links⟩

/-- Flags that change before and after some steps make no difference. -/
theorem Leads.flags {steps : List (Step Data)} {start last : State Data}
    {target : InterpreterRef Data}
    (opening closing : Interpreter (CellRef Data) → Interpreter (CellRef Data))
    (opens : ∀ current, (opening current).result = current.result)
    (closes : ∀ current, (closing current).result = current.result)
    (leads : Leads catalogue interpreter steps (start.updateInterpreter target opening) last) :
    Leads catalogue interpreter steps start (last.updateInterpreter target closing) := by
  have links := leads.links
  rw [State.result_updateInterpreter _ _ _ opens] at links
  refine ⟨leads.exist, ?_⟩
  rwa [State.result_updateInterpreter _ _ _ closes]

/-- The rest of a program follows unless there was a fault. -/
theorem Leads.continued {Value : Type} {steps : List (Step Data)} {start : State Data}
    {action : Action Data Value} {rest : Action Data Unit} {next : State Data → List (Step Data)}
    (leads : Leads catalogue interpreter steps start (action.run start).2)
    (follows : ∀ later : State Data, later.interpreters.has interpreter →
      Leads catalogue interpreter (next later) later (rest.run later).2) :
    Leads catalogue interpreter (steps ++ unlessFault (action.run start) next) start
      ((action >>= fun _ => rest).run start).2 :=
  Program.continued Leads.append leads (follows _ leads.exist)

theorem leads (catalogue : Catalogue Data) (program : Program Data) {start : State Data}
    (exist : start.interpreters.has interpreter) :
    Leads catalogue interpreter (program.steps catalogue start) start
      ((program.run catalogue).run start).2 := by
  induction program generalizing start with
  | done => exact ⟨exist, .nil _⟩
  | ledger call rest restHypothesis =>
      have exist : { start with ledger := call.after start.ledger }.interpreters.has interpreter :=
        exist
      exact ⟨(restHypothesis exist).exist, (restHypothesis exist).links⟩
  | perform operation rest restHypothesis =>
      let step : Step Data := ⟨start, operation⟩
      have performed : Leads catalogue interpreter [step] start (step.after catalogue) :=
        ⟨step.exists_after exist, .cons step exist (.nil _)⟩
      exact performed.continued fun later exist => restHypothesis exist
  | throw fault => exact ⟨exist, .nil _⟩
  | attempt body rest bodyHypothesis restHypothesis =>
      exact (bodyHypothesis exist).append (restHypothesis (bodyHypothesis exist).exist)
  | withDispatch target dispatch body rest bodyHypothesis restHypothesis =>
      have inside : Leads catalogue interpreter (body.steps catalogue _)
          (start.setDispatch target (some dispatch)) _ := bodyHypothesis exist
      have scope := inside.flags (fun current => { current with dispatch := some dispatch })
        (fun inner => { inner with dispatch := (start.interpreters.get target).dispatch })
        (fun _ => rfl) fun _ => rfl
      exact scope.continued fun later exist => restHypothesis exist
  | withAlternate target body rest bodyHypothesis restHypothesis =>
      have inside : Leads catalogue interpreter (body.steps catalogue _)
          (start.setAlternate target true) _ := bodyHypothesis exist
      have scope := inside.flags (fun current => { current with alternate := true })
        (fun inner => { inner with alternate := (start.interpreters.get target).alternate })
        (fun _ => rfl) fun _ => rfl
      exact scope.continued fun later exist => restHypothesis exist

end Program

end CommandWords
