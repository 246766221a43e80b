/-
This file says which representations an operation turns over, and what its calls and its ending
tell of that.
-/

import CommandWords.Proofs.Session.Ownership
import CommandWords.Proofs.Session.Turns

namespace CommandWords

variable {Data : Type}

namespace Operation

/-- The cell whose representation an operation may free. -/
def cell? : Operation Data → Option (CellRef Data)
  | install cell _ _ => some cell
  | freeRepresentation cell => some cell
  | dispose cell => some cell
  | lookup question => some question.cell
  | convert _ cell _ => some cell
  | resolve _ cell _ _ _ _ => some cell
  | _ => none

/-- The cell that gets a payload by the way an operation ends. A copy of a cell without a payload
gets none. -/
def receiver? (state : State Data) :
    Operation Data → Except Fault (Answer Data) → Option (CellRef Data)
  | ofPayload _ _, .ok (.cell made) => some made
  | duplicate source, .ok (.cell copy) =>
      if (state.cells.get source).representation.isSome then some copy else none
  | install cell _ _, .ok _ => some cell
  | convert _ cell _, .ok (.converted outcome) => if outcome.isFresh then some cell else none
  | _, _ => none

end Operation

namespace Step

variable (catalogue : Catalogue Data) (step : Step Data)

/-- The cell that gets a payload, which may be assigned to the one that it has. -/
def receiver? : Option (CellRef Data) :=
  match step.operation.question? step.before with
  | some question =>
      match ((question.ask catalogue).run step.before).1 with
      | .ok outcome => if outcome.isFresh then some question.cell else none
      | .error _ => none
  | none => step.operation.receiver? step.before (step.ending catalogue)

/-- The representation that a step is to install, where the caller or the lookup chooses it. A copy
and a conversion get the payload that a hook makes. -/
def given? : Option (Representation Data) :=
  match step.operation.question? step.before, step.operation with
  | some _, _ => some ⟨.resolution, .object step.before.objects.next⟩
  | none, .ofPayload type made => some ⟨type, step.before.given made⟩
  | none, .install _ type made => some ⟨type, step.before.given made⟩
  | none, _ => none

/-- The calls of a step. The latest one comes first. -/
def calls : List (HookCall Data) :=
  let after := (step.after catalogue).calls
  after.take (after.length - step.before.calls.length)

def assigns : Bool := (step.calls catalogue).any HookCall.isAssign

def freed : List (HookCall Data) := (step.calls catalogue).filter HookCall.isFree

/-- The cell that got a new representation. -/
def target? : Option (CellRef Data) :=
  if step.assigns catalogue then none else step.receiver? catalogue

/-- What a step does to the representation of a cell. The free comes before the install. -/
def turns (cell : CellRef Data) : List (Turn Data) :=
  let held := ((step.after catalogue).cells.get cell).representation
  (if step.target? catalogue = some cell then held.toList else []).map .installed ++
    (if step.operation.cell? = some cell then step.freed catalogue else []).map .freed

/-- How a step turns over representations: of no cell, of the one that it works on or of the one
that it makes. -/
inductive Turning : Prop
  | quiet (unaddressed : step.operation.cell? = none) (idle : step.receiver? catalogue = none)
      (quiet : step.before.Quiet (step.after catalogue))
  | worked {cell : CellRef Data} {ending : Except Fault (Option (Representation Data))}
      (addressed : step.operation.cell? = some cell)
      (turnover : Turnover catalogue cell step.before ending (step.after catalogue))
      (receives : step.receiver? catalogue = (Turnover.wanted? ending).map fun _ => cell)
      (given : ∀ given, step.given? = some given →
        ∀ wanted, Turnover.wanted? ending = some wanted → wanted = given)
      (failed : ∀ fault, step.ending catalogue = .error fault → ending = .error fault)
  | born {middle : State Data} {text : Option String}
      {representation : Option (Representation Data)}
      (unaddressed : step.operation.cell? = none) (quiet : step.before.Quiet middle)
      (made : step.after catalogue = middle.addCell ⟨text, representation⟩)
      (receives : step.receiver? catalogue = representation.map fun _ => middle.cells.next)
      (given : ∀ given, step.given? = some given → representation = some given)

end Step

namespace Operation

variable {catalogue : Catalogue Data} {operation : Operation Data} {state : State Data}
  {Value : Type} {action : Action Data Value}

/-- An operation that works on no cell. -/
theorem turning_of_quiet (relates : action.Relates State.Quiet) (function : Value → Answer Data)
    (performs : operation.perform catalogue = function <$> action)
    (unasked : operation.question? state = none) (unaddressed : operation.cell? = none)
    (idle : ∀ ending, operation.receiver? state ending = none) :
    Step.Turning catalogue ⟨state, operation⟩ := by
  refine .quiet unaddressed ?_ ?_
  · simp only [Step.receiver?, unasked, idle]
  · rw [Step.after, performs]
    exact relates.map function state

/-- An operation that works on one cell without a question. -/
theorem turning_of_turnover {cell : CellRef Data}
    {installs? : Value → Option (Representation Data)}
    (turnover : Turnover catalogue cell state ((action.run state).1.map installs?)
      (action.run state).2) (function : Value → Answer Data)
    (performs : operation.perform catalogue = function <$> action)
    (unasked : operation.question? state = none) (addressed : operation.cell? = some cell)
    (receives : ∀ value, operation.receiver? state (.ok (function value)) =
      (installs? value).map fun _ => cell)
    (idle : ∀ fault, operation.receiver? state (.error fault) = none)
    (given : ∀ given, Step.given? ⟨state, operation⟩ = some given →
      ∀ value wanted, installs? value = some wanted → wanted = given) :
    Step.Turning catalogue ⟨state, operation⟩ := by
  have ended : Step.ending catalogue ⟨state, operation⟩ = (action.run state).1.map function := by
    rw [Step.ending, performs, Action.run_map_ending]
  have left : Step.after catalogue ⟨state, operation⟩ = (action.run state).2 := by
    rw [Step.after, performs, Action.run_map_after]
  have received : Step.receiver? catalogue ⟨state, operation⟩ =
      operation.receiver? state ((action.run state).1.map function) := by
    simp only [Step.receiver?, unasked, ended]
  -- The turnover speaks of the ending of the action, the step of the answer made of it.
  rw [← left] at turnover
  generalize (action.run state).1 = ending at turnover ended received
  cases ending with
  | ok value =>
      refine .worked addressed turnover (received.trans (receives value)) ?_ ?_
      · exact fun wanted asked => given wanted asked value
      · intro fault failed
        cases ended.symm.trans failed
  | error fault =>
      refine .worked addressed turnover (received.trans (idle fault)) ?_ ?_
      · intro wanted asked representation installed
        cases installed
      · intro other failed
        exact congrArg Except.error (Except.error.inj (ended.symm.trans failed))

end Operation

namespace Step

variable (catalogue : Catalogue Data) (state : State Data)

theorem turning_ofPayload (type : TypeId) (made : Made Data) :
    Turning catalogue ⟨state, .ofPayload type made⟩ := by
  cases made with
  | object content =>
      exact .born rfl (state.quiet_addObject content) rfl rfl fun _ => id
  | existing payload => exact .born rfl (refl_of State.Quiet state) rfl rfl fun _ => id

/-- Only a copy that is made gets a payload. -/
theorem turning_duplicate (cell : CellRef Data) :
    Turning catalogue ⟨state, .duplicate cell⟩ := by
  have run := Action.duplicate_run catalogue cell state
  have calls (representation : Representation Data) :=
    Action.relates_callDuplicate (State.Quiet.reporting catalogue).toConsulting representation
  have left : Step.after catalogue ⟨state, .duplicate cell⟩ =
      ((Action.duplicate catalogue cell).run state).2 :=
    Action.run_map_after Answer.cell _ state
  have received : Step.receiver? catalogue ⟨state, .duplicate cell⟩ =
      (Operation.duplicate cell).receiver? state
        (((Action.duplicate catalogue cell).run state).1.map .cell) :=
    congrArg ((Operation.duplicate cell).receiver? state)
      (Action.run_map_ending Answer.cell _ state)
  generalize (Action.duplicate catalogue cell).run state = ended at run left received
  obtain ⟨ending, later⟩ := ended
  cases run with
  | bare held =>
      refine .born rfl (refl_of State.Quiet state) left (received.trans ?_) nofun
      exact if_neg (by simp [held])
  | refused held ended =>
      have quiet := (calls _).ended ended
      rw [← left] at quiet
      exact .quiet rfl received quiet
  | copied held ended =>
      refine .born rfl ((calls _).ended ended) left (received.trans ?_) nofun
      exact if_pos (by simp [held])

variable {state} {operation : Operation Data} {question : Question Data}

/-- An interpreter settles the outcome without a change of cells. -/
theorem turnover_asked (asks : operation.question? state = some question) :
    Turnover catalogue question.cell state
      (((question.ask catalogue).run state).1.map
        (Outcome.installs? ⟨.resolution, .object state.objects.next⟩))
      (Step.after catalogue ⟨state, operation⟩) := by
  have turnover := (question.ask_run catalogue state).turnover
  cases operation with
  | lookup asked =>
      cases asks
      rw [Step.after, Operation.perform, Action.run_map_after]
      exact turnover
  | resolve interpreter cell table stride label exact =>
      cases asks
      rw [Step.after, Operation.perform, Action.run_map_after, Action.run_resolve,
        Action.run_bind]
      generalize (Question.ask _ catalogue).run state = result at turnover ⊢
      obtain ⟨ending, later⟩ := result
      cases ending with
      | error fault => exact turnover
      | ok outcome =>
          have settled := Action.relates_settle State.quiet_updateInterpreter interpreter outcome
          exact Turnover.before_quiet turnover (settled later)
  | _ => cases asks

theorem failed_asked (asks : operation.question? state = some question) {fault : Fault}
    (ended : Step.ending catalogue ⟨state, operation⟩ = .error fault) :
    ((question.ask catalogue).run state).1 = .error fault := by
  cases operation with
  | lookup asked =>
      cases asks
      rw [Step.ending, Operation.perform, Action.run_map_ending] at ended
      generalize (question.ask catalogue).run state = result at ended ⊢
      obtain ⟨ending, later⟩ := result
      cases ending with
      | error other => exact congrArg Except.error (Except.error.inj ended)
      | ok outcome => cases ended
  | resolve interpreter cell table stride label exact =>
      cases asks
      rw [Step.ending, Operation.perform, Action.run_map_ending, Action.run_resolve,
        Action.run_bind] at ended
      generalize (Question.ask _ catalogue).run state = result at ended ⊢
      obtain ⟨ending, later⟩ := result
      cases ending with
      | error other => exact congrArg Except.error (Except.error.inj ended)
      | ok outcome => cases outcome <;> cases ended
  | _ => cases asks

/-- A lookup through an interpreter turns over what the lookup does. -/
theorem turning_asked (asks : operation.question? state = some question)
    (addressed : operation.cell? = some question.cell) :
    Turning catalogue ⟨state, operation⟩ := by
  have turnover := turnover_asked catalogue asks
  have fails (fault : Fault) (ended : Step.ending catalogue ⟨state, operation⟩ = .error fault) :=
    failed_asked catalogue asks ended
  have received : Step.receiver? catalogue ⟨state, operation⟩ =
      match ((question.ask catalogue).run state).1 with
      | .ok outcome => if outcome.isFresh then some question.cell else none
      | .error _ => none := by
    simp only [receiver?, asks]
  generalize ((question.ask catalogue).run state).1 = ending at turnover fails received
  refine .worked addressed turnover ?_ ?_ fun fault ended => ?_
  · rw [received]
    cases ending with
    | ok outcome => cases fresh : outcome.isFresh <;> simp [Except.map, Outcome.installs?, fresh,
        Turnover.wanted?]
    | error fault => rfl
  · simp only [given?, asks, Option.some.injEq]
    rintro _ rfl wanted installs
    cases ending with
    | ok outcome => exact outcome.eq_of_installs? installs
    | error fault => cases installs
  · rw [fails fault ended]
    rfl

theorem turning (step : Step Data) : step.Turning catalogue := by
  obtain ⟨state, operation⟩ := step
  have reporting : State.Reporting catalogue State.Quiet := State.Quiet.reporting catalogue
  have consulting := reporting.toConsulting
  cases operation with
  | addTable table => exact .quiet rfl rfl (.of_same rfl rfl)
  | changeTable reference table => exact .quiet rfl rfl (.of_same rfl rfl)
  | ofText text => exact .born rfl (refl_of State.Quiet state) rfl rfl nofun
  | ofPayload type made => exact turning_ofPayload catalogue state type made
  | readText cell =>
      exact Operation.turning_of_quiet (Action.relates_text consulting cell) _ rfl rfl
        rfl fun _ => rfl
  | invalidateText cell =>
      exact Operation.turning_of_quiet
        (Action.relates_invalidateText cell fun state => state.quiet_setText cell none) _ rfl rfl
        rfl fun _ => rfl
  | install cell type made =>
      exact Operation.turning_of_turnover
        (Action.turnover_installMade catalogue cell state type made) (fun _ => .nothing) rfl rfl rfl
        (fun _ => rfl) (fun _ => rfl) fun given asked value wanted installs =>
          Option.some.inj (installs.symm.trans asked)
  | freeRepresentation cell =>
      exact Operation.turning_of_turnover
        (Action.turnover_freeRepresentation catalogue cell state) (fun _ => .nothing) rfl rfl rfl
        (fun _ => rfl) (fun _ => rfl) nofun
  | duplicate cell => exact turning_duplicate catalogue state cell
  | dispose cell =>
      exact Operation.turning_of_turnover (Action.turnover_dispose catalogue cell state)
        (fun _ => .nothing) rfl rfl rfl (fun _ => rfl) (fun _ => rfl) nofun
  | lookup question => exact turning_asked catalogue rfl rfl
  | addRegistry registry => exact .quiet rfl rfl (.of_same rfl rfl)
  | register registry type =>
      exact Operation.turning_of_quiet (Action.relates_register reporting registry type) _ rfl rfl
        rfl fun _ => rfl
  | convert registry cell name =>
      obtain ⟨representation, turnover⟩ :=
        Action.turnover_convert catalogue cell state registry name
      refine Operation.turning_of_turnover turnover Answer.converted rfl rfl rfl ?_
        (fun _ => rfl) nofun
      intro outcome
      cases fresh : outcome.isFresh <;> simp [Operation.receiver?, Outcome.installs?, fresh]
  | showWord mayQuote cell =>
      exact Operation.turning_of_quiet (Action.relates_showWord consulting mayQuote cell)
        _ rfl rfl rfl fun _ => rfl
  | usageText words options =>
      exact Operation.turning_of_quiet
        (Action.relates_usageText consulting words options) _ rfl rfl rfl fun _ => rfl
  | addInterpreter configuration => exact .quiet rfl rfl (.of_same rfl rfl)
  | writeResult interpreter result => exact .quiet rfl rfl (.of_same rfl rfl)
  | setAlternate interpreter alternate => exact .quiet rfl rfl (.of_same rfl rfl)
  | setDispatch interpreter dispatch => exact .quiet rfl rfl (.of_same rfl rfl)
  | resolve interpreter cell table stride label exact =>
      exact turning_asked catalogue rfl rfl
  | reportUsage interpreter count words message =>
      exact Operation.turning_of_quiet
        (Action.relates_reportUsage reporting interpreter count words message) _ rfl rfl rfl
        fun _ => rfl
  | configureLedger limit enabled => exact .quiet rfl rfl (.of_same rfl rfl)
  | logEvent event => exact .quiet rfl rfl (.of_same rfl rfl)
  | clearLedger => exact .quiet rfl rfl (.of_same rfl rfl)

variable {catalogue} in
/-- No operation takes a cell away. -/
theorem has_after {step : Step Data} {cell : CellRef Data}
    (known : step.before.cells.has cell = true) :
    (step.after catalogue).cells.has cell = true := by
  cases step.turning catalogue with
  | quiet unaddressed idle quiet =>
      rw [Store.has, quiet.size]
      exact known
  | worked addressed turnover receives given failed =>
      obtain ⟨made, trace⟩ := turnover.exists_trace
      rw [Store.has, trace.turned.size]
      exact known
  | @born middle text representation unaddressed quiet made receives given =>
      have old := of_decide_eq_true known
      rw [made, Store.has, State.addCell, Store.size_add, quiet.size]
      exact decide_eq_true (Nat.lt_succ_of_lt old)

end Step

end CommandWords
