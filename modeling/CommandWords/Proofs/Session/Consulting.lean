/-
This file compares the states before and after an action. What holds of every single change that an
action makes holds of the whole action.
-/

import CommandWords.Interpreter.Command
import CommandWords.Proofs.Session.Memory
import CommandWords.Registry
import Mathlib.Order.Defs.Unbundled

namespace CommandWords

variable {Data : Type}

namespace State

/-- A call of a hook is noted. -/
def noted (state : State Data) (type : TypeId) (hook : Hook) (arguments : List (Argument Data)) :
    State Data :=
  { state with calls := ⟨type, hook, arguments⟩ :: state.calls }

theorem noted_same (state : State Data) (type : TypeId) (hook : Hook)
    (arguments : List (Argument Data)) : state.SameMemory (state.noted type hook arguments) :=
  ⟨rfl, rfl, rfl⟩

instance : IsPreorder (State Data) SameMemory where
  refl := .refl
  trans _ _ _ := .trans

/-- The relation ignores calls that free and assign nothing, new objects and regenerated texts. -/
structure Consulting (catalogue : Catalogue Data) (relation : State Data → State Data → Prop) :
    Prop where
  noted : ∀ state type hook arguments, hook ≠ .free → hook ≠ .assign →
    relation state (state.noted type hook arguments)
  object : ∀ state content, relation state (state.addObject content)
  text : ∀ (state : State Data) cell representation text,
    (state.cells.get cell).text = none →
      (state.cells.get cell).representation = some representation →
        state.Regenerates catalogue representation text →
          relation state (state.setText cell (some text))

/-- The relation also ignores interpreters and registries. -/
structure Reporting (catalogue : Catalogue Data) (relation : State Data → State Data → Prop) :
    Prop extends Consulting catalogue relation where
  interpreters : ∀ (state : State Data) interpreter update,
    relation state (state.updateInterpreter interpreter update)
  registries : ∀ (state : State Data) registries, relation state { state with registries }

end State

namespace Action

variable {Value Result : Type}

theorem run_map_ending (function : Value → Result) (action : Action Data Value)
    (state : State Data) :
    ((function <$> action).run state).1 = (action.run state).1.map function := by
  rw [run_map]
  cases action.run state with
  | mk ending changed => cases ending <;> rfl

theorem run_map_after (function : Value → Result) (action : Action Data Value)
    (state : State Data) : ((function <$> action).run state).2 = (action.run state).2 := by
  rw [run_map]
  cases action.run state with
  | mk ending changed => cases ending <;> rfl

theorem between_of_bind {action : Action Data Value} {next : Value → Action Data Result}
    {state later : State Data} {result : Result}
    (ended : (action >>= next).run state = (.ok result, later)) :
    ∃ value between, action.run state = (.ok value, between) ∧
      (next value).run between = (.ok result, later) := by
  rw [run_bind] at ended
  cases first : action.run state with
  | mk ending between =>
      rw [first] at ended
      cases ending with
      | error fault => cases ended
      | ok value => exact ⟨value, between, rfl, ended⟩

/-- However the action ends, the relation holds between the states before and after it. -/
def Relates (relation : State Data → State Data → Prop) (action : Action Data Value) : Prop :=
  ∀ state, relation state (action.run state).2

section closure

variable {relation : State Data → State Data → Prop}

theorem Relates.ended {action : Action Data Value} (relates : action.Relates relation)
    {state later : State Data} {ending : Except Fault Value}
    (ended : action.run state = (ending, later)) : relation state later := by
  have related := relates state
  rwa [ended] at related

theorem Relates.map {action : Action Data Value} (function : Value → Result)
    (relates : action.Relates relation) : (function <$> action).Relates relation := by
  intro state
  rw [run_map_after]
  exact relates state

theorem relates_writeResult (updates : ∀ (state : State Data) interpreter update,
    relation state (state.updateInterpreter interpreter update))
    (interpreter : InterpreterRef Data) (result : String) :
    (writeResult interpreter result).Relates relation :=
  fun state => updates state interpreter fun current => { current with result }

variable [IsPreorder (State Data) relation]

theorem Relates.bind {action : Action Data Value} {next : Value → Action Data Result}
    (first : action.Relates relation) (rest : ∀ value, (next value).Relates relation) :
    (action >>= next).Relates relation := by
  intro state
  have before := first state
  rw [run_bind]
  cases ended : action.run state with
  | mk ending changed =>
      rw [ended] at before
      cases ending with
      | ok value => exact trans_of relation before (rest value changed)
      | error fault => exact before

theorem relates_pure (value : Value) : (pure value : Action Data Value).Relates relation :=
  fun state => refl_of relation state

theorem relates_state : (state : Action Data (State Data)).Relates relation :=
  fun state => refl_of relation state

theorem relates_ofResult (result : Except Fault Value) :
    (ofResult result : Action Data Value).Relates relation :=
  fun state => refl_of relation state

theorem relates_fail (fault : Fault) : (fail fault : Action Data Value).Relates relation :=
  fun state => refl_of relation state

theorem relates_make (objects : ∀ (state : State Data) content,
    relation state (state.addObject content)) (made : Made Data) :
    (make made).Relates relation := by
  cases made with
  | object content => exact fun state => objects state content
  | existing payload => exact relates_pure payload

theorem relates_invalidateText (cell : CellRef Data)
    (drops : ∀ state : State Data, relation state (state.setText cell none)) :
    (invalidateText cell).Relates relation := by
  refine relates_state.bind fun present => ?_
  dsimp only
  split
  · exact relates_fail _
  · exact drops

/-- Only a failure is written. -/
theorem relates_settle (updates : ∀ (state : State Data) interpreter update,
    relation state (state.updateInterpreter interpreter update))
    (interpreter : InterpreterRef Data) (outcome : Outcome Number) :
    (settle interpreter outcome).Relates relation := by
  cases outcome with
  | done index effort => exact relates_pure _
  | fail failure effort =>
      exact (relates_writeResult updates interpreter _).bind fun _ => relates_pure _

/-- An interpreter settles an outcome, whatever action it comes from. -/
theorem relates_settled (updates : ∀ (state : State Data) interpreter update,
    relation state (state.updateInterpreter interpreter update))
    (action : Action Data (Outcome Number)) (interpreter : InterpreterRef Data)
    (state : State Data) :
    relation (action.run state).2 ((action >>= settle interpreter).run state).2 := by
  rw [run_bind]
  cases ended : action.run state with
  | mk ending later =>
      cases ending with
      | ok outcome => exact relates_settle updates interpreter outcome later
      | error fault => exact refl_of relation later

end closure

/-- An interpreter has no part in the memory. -/
theorem settled_same (action : Action Data (Outcome Number)) (interpreter : InterpreterRef Data)
    (state : State Data) :
    (action.run state).2.SameMemory ((action >>= settle interpreter).run state).2 :=
  relates_settled (fun _ _ _ => ⟨rfl, rfl, rfl⟩) action interpreter state

theorem run_callRegenerate (catalogue : Catalogue Data) (representation : Representation Data)
    (state : State Data) :
    (callRegenerate catalogue representation).run state =
      let argument := state.argument representation.payload
      let after := state.noted representation.type .regenerate [argument]
      ((catalogue.describe representation.type).regenerate after.view argument, after) := rfl

section printing

variable {catalogue : Catalogue Data} {relation : State Data → State Data → Prop}
  [IsPreorder (State Data) relation]

/-- Printing a word reads a text at most. -/
theorem relates_shownWord (reads : ∀ cell, (text catalogue cell).Relates relation)
    (mayQuote : Bool) (cell : CellRef Data) :
    (showWord catalogue mayQuote cell).Relates relation := by
  refine relates_state.bind fun present => ?_
  split
  · exact relates_ofResult _
  · exact (reads cell).bind fun _ => relates_pure _

variable (shows : ∀ mayQuote cell, (showWord catalogue mayQuote cell).Relates relation)

include shows

/-- Words are printed one by one. -/
theorem relates_shownWords (quoteFirst : Bool) (words : List (CellRef Data)) :
    (showWords catalogue quoteFirst words).Relates relation := by
  induction words generalizing quoteFirst with
  | nil => exact relates_pure []
  | cons first rest inductionHypothesis =>
      refine (shows quoteFirst first).bind fun word => ?_
      exact (inductionHypothesis true).bind fun words => relates_pure _

theorem relates_shownUsage (words : List (CellRef Data)) (options : UsageOptions Data) :
    (usageText catalogue words options).Relates relation :=
  (relates_shownWords shows _ _).bind fun _ => relates_pure _

/-- A report is written where it was printed. -/
theorem relates_shownReport (updates : ∀ (state : State Data) interpreter update,
    relation state (state.updateInterpreter interpreter update))
    (interpreter : InterpreterRef Data) (count : Number) (words : List (CellRef Data))
    (message : Option String) :
    (reportUsage catalogue interpreter count words message).Relates relation := by
  refine Relates.bind (relates_state.bind fun _ => relates_pure _) fun current => ?_
  refine (relates_shownUsage shows _ _).bind fun _ => ?_
  exact relates_writeResult updates interpreter _

end printing

section consulting

variable {catalogue : Catalogue Data} {relation : State Data → State Data → Prop}
  (consulting : State.Consulting catalogue relation)

include consulting

theorem relates_noteCall (type : TypeId) {hook : Hook} (unfreed : hook ≠ .free)
    (unassigned : hook ≠ .assign) (arguments : List (Argument Data)) :
    (noteCall type hook arguments).Relates relation :=
  fun state => consulting.noted state type hook arguments unfreed unassigned

variable [IsPreorder (State Data) relation]

theorem relates_callDuplicate (representation : Representation Data) :
    (callDuplicate catalogue representation).Relates relation := by
  refine relates_state.bind fun _ => ?_
  refine (relates_noteCall consulting _ (by decide) (by decide) _).bind fun _ => ?_
  exact (relates_ofResult _).bind (relates_make consulting.object)

/-- A text is regenerated only where it is missing, and by the type that the cell has. -/
theorem relates_text (cell : CellRef Data) : (text catalogue cell).Relates relation := by
  intro state
  unfold text
  rw [run_bind_ok (run_state state)]
  cases stored : (state.cells.get cell).text with
  | some found =>
      simp only [stored, run_pure]
      exact refl_of relation state
  | none =>
      cases held : (state.cells.get cell).representation with
      | none =>
          simp only [stored, held, run_fail]
          exact refl_of relation state
      | some representation =>
          let called := state.noted representation.type .regenerate
            [state.argument representation.payload]
          have noted : relation state called :=
            consulting.noted state _ _ _ (by decide) (by decide)
          simp only [stored, held, run_bind, run_callRegenerate]
          generalize made : (catalogue.describe representation.type).regenerate _ _ = result
          cases result with
          | ok text =>
              have written := consulting.text called cell representation text stored held
                ⟨_, made⟩
              exact trans_of relation noted written
          | error fault => exact noted

theorem relates_callConvert (type : TypeId) (cell : CellRef Data) :
    (callConvert catalogue type (text catalogue cell)).Relates relation := by
  refine (relates_noteCall consulting _ (by decide) (by decide) _).bind fun view => ?_
  split
  · exact relates_ofResult _
  · exact (relates_text consulting cell).bind fun _ => relates_ofResult _

theorem relates_showWord (mayQuote : Bool) (cell : CellRef Data) :
    (showWord catalogue mayQuote cell).Relates relation :=
  relates_shownWord (relates_text consulting) mayQuote cell

theorem relates_usageText (words : List (CellRef Data)) (options : UsageOptions Data) :
    (usageText catalogue words options).Relates relation :=
  relates_shownUsage (relates_showWord consulting) words options

end consulting

section reporting

variable {catalogue : Catalogue Data} {relation : State Data → State Data → Prop}
  [IsPreorder (State Data) relation] (reporting : State.Reporting catalogue relation)

include reporting

theorem relates_register (registry : Ref Registry) (type : TypeId) :
    (register catalogue registry type).Relates relation := by
  refine relates_state.bind fun present => ?_
  exact (relates_ofResult _).bind fun _ state => reporting.registries state _

theorem relates_reportUsage (interpreter : InterpreterRef Data) (count : Number)
    (words : List (CellRef Data)) (message : Option String) :
    (reportUsage catalogue interpreter count words message).Relates relation :=
  relates_shownReport (relates_showWord reporting.toConsulting) reporting.interpreters interpreter
    count words message

end reporting

end Action

end CommandWords
