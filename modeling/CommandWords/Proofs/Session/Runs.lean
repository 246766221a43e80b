/-
This file says how the actions on cells end and what they leave behind.
-/

import CommandWords.Lookup
import CommandWords.Proofs.Session.Consulting
import CommandWords.Proofs.Session.Operation

namespace CommandWords

variable {Data : Type}

namespace State

def addCell (state : State Data) (cell : Cell Data) : State Data :=
  { state with cells := state.cells.add cell }

/-- A write of the representation that a cell has changes nothing. -/
theorem setRepresentation_held {state : State Data} {cell : CellRef Data}
    {representation : Option (Representation Data)}
    (held : (state.cells.get cell).representation = representation) :
    state.setRepresentation cell representation = state := by
  subst held
  show { state with cells := state.cells.set cell (state.cells.get cell) } = state
  rw [Store.set_get]

theorem setRepresentation_twice (state : State Data) (cell : CellRef Data)
    (first second : Option (Representation Data)) :
    (state.setRepresentation cell first).setRepresentation cell second =
      state.setRepresentation cell second := by
  simp only [setRepresentation, setCell, Store.get_set_self, Store.set_set]

theorem SameMemory.setRepresentation {first second : State Data}
    (same : first.SameMemory second) (cell : CellRef Data)
    (representation : Option (Representation Data)) :
    (first.setRepresentation cell representation).SameMemory
      (second.setRepresentation cell representation) := by
  constructor
  · exact same.tables
  · exact same.objects
  · simp only [State.setRepresentation, State.setCell, same.cells]

theorem SameMemory.setText {first second : State Data} (same : first.SameMemory second)
    (cell : CellRef Data) (text : Option String) :
    (first.setText cell text).SameMemory (second.setText cell text) := by
  constructor
  · exact same.tables
  · exact same.objects
  · simp only [State.setText, State.setCell, same.cells]

theorem SameMemory.setObject {first second : State Data} (same : first.SameMemory second)
    (payload : Payload Data) (content : Content Data) :
    (first.setObject payload content).SameMemory (second.setObject payload content) := by
  cases payload with
  | object reference =>
      constructor
      · exact same.tables
      · simp only [State.setObject, same.objects]
      · exact same.cells
  | plain value => exact same

namespace Prepared

variable {catalogue : Catalogue Data}

instance : IsPreorder (State Data) (Prepared catalogue) where
  refl _ := .start
  trans _ _ _ := .trans

theorem reporting : Reporting catalogue (Prepared catalogue) where
  noted state type hook arguments _ _ := .of_same (state.noted_same type hook arguments)
  object _ content := .object .start content
  text _ _ _ _ missing held regenerated := .text .start missing held regenerated
  interpreters _ _ _ := .of_same ⟨rfl, rfl, rfl⟩
  registries _ _ := .of_same ⟨rfl, rfl, rfl⟩

end Prepared

end State

namespace Action

variable {Value Result : Type} {catalogue : Catalogue Data}

/-- However the action ends, it leaves all representations and their payloads alone. -/
def Prepares (catalogue : Catalogue Data) (action : Action Data Value) : Prop :=
  ∀ state, State.Prepared catalogue state (action.run state).2

theorem Prepares.ended {action : Action Data Value} (prepares : action.Prepares catalogue)
    {state later : State Data} {ending : Except Fault Value}
    (ended : action.run state = (ending, later)) : state.Prepared catalogue later :=
  Relates.ended prepares ended

theorem prepares_make (made : Made Data) : (make made).Prepares catalogue :=
  relates_make (fun _ content => .object .start content) made

theorem run_make_object (content : Content Data) (state : State Data) :
    (make (.object content)).run state =
      (.ok (.object state.objects.next), state.addObject content) := rfl

variable (catalogue)

/-- The copy of a resolution is a new object with the same content. -/
theorem run_callDuplicate_resolution (payload : Payload Data) (state : State Data) :
    (callDuplicate catalogue ⟨.resolution, payload⟩).run state =
      let called := state.noted .resolution .duplicate [state.argument payload]
      (.ok (.object called.objects.next), called.addObject (state.content payload)) := rfl

/-- No hook changes a cell. -/
theorem cells_callDuplicate (representation : Representation Data) (state : State Data) :
    ((callDuplicate catalogue representation).run state).2.cells = state.cells := by
  let argument := state.argument representation.payload
  let called := state.noted representation.type .duplicate [argument]
  let result := (catalogue.describe representation.type).duplicate called.view argument
  show ((ofResult result >>= make).run called).2.cells = state.cells
  rw [run_bind, run_ofResult]
  cases result with
  | error fault => rfl
  | ok made => cases made <;> rfl

theorem prepares_callDuplicate (representation : Representation Data) :
    (callDuplicate catalogue representation).Prepares catalogue :=
  relates_callDuplicate State.Prepared.reporting.toConsulting representation

/-- The text of a cell is stored, missing for good, regenerated or refused by its type. -/
inductive TextRun (cell : CellRef Data) (state : State Data) :
    Except Fault String → State Data → Prop
  | stored {text : String} (found : (state.cells.get cell).text = some text) :
      TextRun cell state (.ok text) state
  | formless (missing : (state.cells.get cell).text = none)
      (bare : (state.cells.get cell).representation = none) :
      TextRun cell state (.error .formless) state
  | regenerated {representation : Representation Data} {text : String} {later : State Data}
      (missing : (state.cells.get cell).text = none)
      (held : (state.cells.get cell).representation = some representation)
      (made : state.Regenerates catalogue representation text)
      (same : (state.setText cell (some text)).SameMemory later) :
      TextRun cell state (.ok text) later
  | refused {representation : Representation Data} {fault : Fault} {later : State Data}
      (missing : (state.cells.get cell).text = none)
      (held : (state.cells.get cell).representation = some representation)
      (failed : ∃ calls, (catalogue.describe representation.type).regenerate
        ⟨state.tables, calls⟩ (state.argument representation.payload) = .error fault)
      (same : state.SameMemory later) : TextRun cell state (.error fault) later

theorem text_run (cell : CellRef Data) (state : State Data) :
    TextRun catalogue cell state ((text catalogue cell).run state).1
      ((text catalogue cell).run state).2 := by
  unfold text
  rw [run_bind_ok (run_state state)]
  cases stored : (state.cells.get cell).text with
  | some found =>
      simp only [stored, run_pure]
      exact .stored stored
  | none =>
      cases held : (state.cells.get cell).representation with
      | none =>
          simp only [stored, held, run_fail]
          exact .formless stored held
      | some representation =>
          simp only [stored, held, run_bind, run_callRegenerate]
          generalize made : (catalogue.describe representation.type).regenerate _ _ = result
          cases result with
          | ok text => exact .regenerated stored held ⟨_, made⟩ ((state.noted_same ..).setText _ _)
          | error fault => exact .refused stored held ⟨_, made⟩ (state.noted_same ..)

theorem prepares_text (cell : CellRef Data) : (text catalogue cell).Prepares catalogue :=
  relates_text State.Prepared.reporting.toConsulting cell

theorem run_text_of_stored {cell : CellRef Data} {state : State Data} {found : String}
    (stored : (state.cells.get cell).text = some found) :
    (text catalogue cell).run state = (.ok found, state) := by
  unfold text
  rw [run_bind_ok (run_state state)]
  simp only [stored, run_pure]

/-- A text that was read is stored. -/
theorem text_stored {cell : CellRef Data} {state later : State Data} {key : String}
    (ended : (text catalogue cell).run state = (.ok key, later)) :
    (later.cells.get cell).text = some key := by
  have read := text_run catalogue cell state
  rw [ended] at read
  cases read with
  | stored found => exact found
  | regenerated missing held made same => rw [same.cells, State.get_setText]

/-- No text makes an object. -/
theorem objects_text (cell : CellRef Data) (state : State Data) :
    ((text catalogue cell).run state).2.objects = state.objects := by
  have read := text_run catalogue cell state
  generalize (text catalogue cell).run state = ended at read ⊢
  obtain ⟨ending, later⟩ := ended
  cases read with
  | stored found => rfl
  | formless missing bare => rfl
  | regenerated missing held made same => exact same.objects
  | refused missing held failed same => exact same.objects

theorem prepares_callConvert (type : TypeId) (cell : CellRef Data) :
    (callConvert catalogue type (text catalogue cell)).Prepares catalogue :=
  relates_callConvert State.Prepared.reporting.toConsulting type cell

/-- The text of the cell is not read when its type decides a conversion without it. -/
inductive Converts (type : TypeId) (cell : CellRef Data) (state : State Data)
    (outcome : Outcome (Made Data)) (read : State Data) : Prop
  | decided (decided : ∃ calls, (catalogue.describe type).convert ⟨state.tables, calls⟩ =
      .decided (.ok outcome))
  | converted {key : String}
      (made : ∃ calls result, (catalogue.describe type).convert ⟨state.tables, calls⟩ =
        .fromText result ∧ result key = .ok outcome)
      (stored : (read.cells.get cell).text = some key)

variable {catalogue} in
theorem converts_of_callConvert {type : TypeId} {cell : CellRef Data} {state read : State Data}
    {outcome : Outcome (Made Data)}
    (ended : (callConvert catalogue type (text catalogue cell)).run state = (.ok outcome, read)) :
    Converts catalogue type cell state outcome read := by
  have noted : (noteCall type .convert []).run state =
    (.ok (state.noted type .convert []).view, state.noted type .convert []) := rfl
  unfold callConvert at ended
  rw [run_bind_ok noted] at ended
  split at ended
  next result decided =>
    obtain rfl : result = .ok outcome := congrArg Prod.fst ended
    exact .decided ⟨_, decided⟩
  next result needed =>
    obtain ⟨key, between, found, ended⟩ := between_of_bind ended
    obtain ⟨made, rfl⟩ := Prod.mk.inj ended
    exact .converted ⟨_, result, needed, made⟩ (text_stored catalogue found)

theorem prepares_showWord (mayQuote : Bool) (cell : CellRef Data) :
    (showWord catalogue mayQuote cell).Prepares catalogue :=
  relates_showWord State.Prepared.reporting.toConsulting mayQuote cell

theorem prepares_usageText (words : List (CellRef Data)) (options : UsageOptions Data) :
    (usageText catalogue words options).Prepares catalogue :=
  relates_usageText State.Prepared.reporting.toConsulting words options

/-- The free hook of a representation fails. -/
def FreeFails (state : State Data) (representation : Representation Data) (fault : Fault) :
    Prop :=
  ∃ calls, (catalogue.describe representation.type).free ⟨state.tables, calls⟩
    (state.argument representation.payload) = .error fault

/-- The representation is gone even if its payload could not be freed. -/
inductive DetachRun (cell : CellRef Data) (state : State Data) :
    Except Fault Unit → State Data → Prop
  | freed {later : State Data} (same : (state.setRepresentation cell none).SameMemory later) :
      DetachRun cell state (.ok ()) later
  | lost {representation : Representation Data} {fault : Fault} {later : State Data}
      (held : (state.cells.get cell).representation = some representation)
      (failed : FreeFails catalogue state representation fault)
      (same : (state.setRepresentation cell none).SameMemory later) :
      DetachRun cell state (.error fault) later

/-- A detached representation takes no text with it. -/
theorem DetachRun.text {cell : CellRef Data} {state later : State Data}
    {ending : Except Fault Unit} (detached : DetachRun catalogue cell state ending later)
    (other : CellRef Data) : (later.cells.get other).text = (state.cells.get other).text := by
  cases detached with
  | freed same => rw [same.cells, State.text_setRepresentation]
  | lost held failed same => rw [same.cells, State.text_setRepresentation]

theorem detach_run (cell : CellRef Data) (state : State Data) :
    DetachRun catalogue cell state ((detach catalogue cell).run state).1
      ((detach catalogue cell).run state).2 := by
  unfold detach
  rw [run_bind_ok (run_state state)]
  cases held : (state.cells.get cell).representation with
  | none =>
      simp only [held, run_pure]
      have kept := State.setRepresentation_held held
      apply DetachRun.freed
      rw [kept]
      exact .refl state
  | some representation =>
      let bare := state.setRepresentation cell none
      let argument := bare.argument representation.payload
      let called := bare.noted representation.type .free [argument]
      have ended : (change (fun present => present.setRepresentation cell none) >>= fun _ =>
          callFree catalogue representation).run state =
            ((catalogue.describe representation.type).free called.view argument, called) := rfl
      simp only [held, ended]
      generalize made : (catalogue.describe representation.type).free called.view argument = result
      cases result with
      | ok value => exact .freed (bare.noted_same ..)
      | error fault => exact .lost held ⟨_, made⟩ (bare.noted_same ..)

/-- A payload is assigned to the old one or takes its place. -/
inductive InstallRun (cell : CellRef Data) (type : TypeId) (payload : Payload Data)
    (state : State Data) : Except Fault Unit → State Data → Prop
  | assigned {target : Payload Data} {content : Content Data} {later : State Data}
      (accepted : state.payload? catalogue cell type = some target)
      (written : ∃ assign calls, (catalogue.describe type).assign? = some assign ∧
        assign ⟨state.tables, calls⟩ (state.argument target) (state.argument payload) =
          .ok content)
      (same : (state.setObject target content).SameMemory later) :
      InstallRun cell type payload state (.ok ()) later
  | unassigned {target : Payload Data} {fault : Fault} {later : State Data}
      (accepted : state.payload? catalogue cell type = some target)
      (failed : ∃ assign calls, (catalogue.describe type).assign? = some assign ∧
        assign ⟨state.tables, calls⟩ (state.argument target) (state.argument payload) =
          .error fault)
      (same : state.SameMemory later) : InstallRun cell type payload state (.error fault) later
  | replaced {later : State Data}
      (separate : state.payload? catalogue cell type = none ∨
        (catalogue.describe type).assign? = none)
      (same : (state.setRepresentation cell (some ⟨type, payload⟩)).SameMemory later) :
      InstallRun cell type payload state (.ok ()) later
  | lost {representation : Representation Data} {fault : Fault} {later : State Data}
      (held : (state.cells.get cell).representation = some representation)
      (failed : FreeFails catalogue state representation fault)
      (same : (state.setRepresentation cell none).SameMemory later) :
      InstallRun cell type payload state (.error fault) later

/-- However a payload is installed, the texts and tables stay. -/
theorem InstallRun.frame {cell : CellRef Data} {type : TypeId} {payload : Payload Data}
    {state later : State Data} {ending : Except Fault Unit}
    (installed : InstallRun catalogue cell type payload state ending later) :
    later.tables = state.tables ∧
      ∀ other, (later.cells.get other).text = (state.cells.get other).text := by
  cases installed with
  | assigned accepted written same =>
      rw [same.tables, same.cells]
      simp
  | unassigned accepted failed same =>
      rw [same.tables, same.cells]
      simp
  | replaced separate same =>
      rw [same.tables, same.cells]
      simp
  | lost held failed same =>
      rw [same.tables, same.cells]
      simp

theorem replace_run {cell : CellRef Data} {type : TypeId} {state : State Data}
    (separate : state.payload? catalogue cell type = none ∨
      (catalogue.describe type).assign? = none) (payload : Payload Data) :
    InstallRun catalogue cell type payload state
      ((replace catalogue cell type payload).run state).1
      ((replace catalogue cell type payload).run state).2 := by
  unfold replace
  rw [run_bind]
  have gone := detach_run catalogue cell state
  cases ended : (detach catalogue cell).run state with
  | mk ending changed =>
      rw [ended] at gone
      cases gone with
      | freed same =>
          have written := same.setRepresentation cell (some ⟨type, payload⟩)
          rw [State.setRepresentation_twice] at written
          exact .replaced separate written
      | lost held failed same => exact .lost held failed same

theorem run_callAssign (type : TypeId)
    (assign : View Data → Argument Data → Argument Data → Except Fault (Content Data))
    (target source : Payload Data) (state : State Data) :
    (callAssign type assign target source).run state =
      let called := state.noted type .assign [state.argument target, state.argument source]
      match assign called.view (state.argument target) (state.argument source) with
      | .ok content => (.ok (), called.setObject target content)
      | .error fault => (.error fault, called) := by
  show (ofResult (assign (state.noted ..).view (state.argument target) (state.argument source)) >>=
    fun content => change fun later => later.setObject target content).run (state.noted ..) = _
  rw [run_bind, run_ofResult]
  dsimp only
  generalize assign _ _ _ = written
  cases written with
  | ok content => rfl
  | error fault => rfl

theorem install_run (cell : CellRef Data) (type : TypeId) (payload : Payload Data)
    (state : State Data) :
    InstallRun catalogue cell type payload state
      ((install catalogue cell type payload).run state).1
      ((install catalogue cell type payload).run state).2 := by
  unfold install
  rw [run_bind_ok (run_state state)]
  cases accepted : state.payload? catalogue cell type with
  | none => exact replace_run catalogue (.inl accepted) payload
  | some target =>
      cases able : (catalogue.describe type).assign? with
      | none => exact replace_run catalogue (.inr able) payload
      | some assign =>
          simp only [run_callAssign]
          have same := state.noted_same type .assign
            [state.argument target, state.argument payload]
          split
          next content written =>
            exact .assigned accepted ⟨assign, _, able, written⟩ (same.setObject target content)
          next fault failed => exact .unassigned accepted ⟨assign, _, able, failed⟩ same

/-- A representation is detached after the text was read. -/
inductive FreeRun (cell : CellRef Data) (state : State Data) :
    Except Fault Unit → State Data → Prop
  | bare (held : (state.cells.get cell).representation = none) : FreeRun cell state (.ok ()) state
  | unread {representation : Representation Data} {fault : Fault} {later : State Data}
      (held : (state.cells.get cell).representation = some representation)
      (ended : (text catalogue cell).run state = (.error fault, later)) :
      FreeRun cell state (.error fault) later
  | detached {representation : Representation Data} {key : String} {read later : State Data}
      {ending : Except Fault Unit}
      (held : (state.cells.get cell).representation = some representation)
      (ended : (text catalogue cell).run state = (.ok key, read))
      (gone : (detach catalogue cell).run read = (ending, later)) :
      FreeRun cell state ending later

theorem freeRepresentation_run (cell : CellRef Data) (state : State Data) :
    FreeRun catalogue cell state ((freeRepresentation catalogue cell).run state).1
      ((freeRepresentation catalogue cell).run state).2 := by
  unfold freeRepresentation
  rw [run_bind_ok (run_state state)]
  cases held : (state.cells.get cell).representation with
  | none =>
      simp only [held, run_pure]
      exact .bare held
  | some representation =>
      simp only [held, run_bind]
      cases ended : (text catalogue cell).run state with
      | mk ending read =>
          cases ending with
          | error fault => exact .unread held ended
          | ok key => exact .detached held ended rfl

/-- A copy is a new cell. Its payload is made before it. -/
inductive DuplicateRun (source : CellRef Data) (state : State Data) :
    Except Fault (CellRef Data) → State Data → Prop
  | bare (held : (state.cells.get source).representation = none) :
      DuplicateRun source state (.ok state.cells.next)
        (state.addCell ⟨(state.cells.get source).text, none⟩)
  | refused {representation : Representation Data} {fault : Fault} {later : State Data}
      (held : (state.cells.get source).representation = some representation)
      (ended : (callDuplicate catalogue representation).run state = (.error fault, later)) :
      DuplicateRun source state (.error fault) later
  | copied {representation : Representation Data} {payload : Payload Data} {later : State Data}
      (held : (state.cells.get source).representation = some representation)
      (ended : (callDuplicate catalogue representation).run state = (.ok payload, later)) :
      DuplicateRun source state (.ok later.cells.next)
        (later.addCell ⟨(state.cells.get source).text, some ⟨representation.type, payload⟩⟩)

theorem duplicate_run (source : CellRef Data) (state : State Data) :
    DuplicateRun catalogue source state ((duplicate catalogue source).run state).1
      ((duplicate catalogue source).run state).2 := by
  unfold duplicate
  rw [run_bind_ok (run_state state)]
  cases held : (state.cells.get source).representation with
  | none =>
      simp only [held, duplicateRepresentation, pure_bind]
      exact .bare held
  | some representation =>
      simp only [held, duplicateRepresentation, bind_assoc, pure_bind, run_bind]
      cases ended : (callDuplicate catalogue representation).run state with
      | mk ending later =>
          cases ending with
          | error fault => exact .refused held ended
          | ok payload => exact .copied held ended

/-- A cell is converted unless it has the type already. The payload that its type makes of the text
is installed last. -/
inductive ConvertRun (registry : Ref Registry) (cell : CellRef Data) (name : String)
    (state : State Data) : Except Fault (Outcome Unit) → State Data → Prop
  | unknown (unknown : (state.registries.get registry).get? name = none) :
      ConvertRun registry cell name state (.ok (.unregistered name)) state
  | kept {type : TypeId} (known : (state.registries.get registry).get? name = some type)
      (compatible : state.isCompatible catalogue cell type (fun _ => true) = true) :
      ConvertRun registry cell name state (.ok (.done () ⟨none, some true⟩)) state
  | unread {type : TypeId} {fault : Fault} {read : State Data}
      (known : (state.registries.get registry).get? name = some type)
      (other : ¬ state.isCompatible catalogue cell type (fun _ => true) = true)
      (ended : (callConvert catalogue type (text catalogue cell)).run state =
        (.error fault, read)) : ConvertRun registry cell name state (.error fault) read
  | refused {type : TypeId} {failure : Failure Diagnostic} {effort : Effort} {read : State Data}
      (known : (state.registries.get registry).get? name = some type)
      (other : ¬ state.isCompatible catalogue cell type (fun _ => true) = true)
      (ended : (callConvert catalogue type (text catalogue cell)).run state =
        (.ok (.fail failure effort), read)) :
      ConvertRun registry cell name state (.ok (.fail failure effort)) read
  | installed {type : TypeId} {made : Made Data} {effort : Effort} {read later : State Data}
      {ending : Except Fault Unit}
      (known : (state.registries.get registry).get? name = some type)
      (other : ¬ state.isCompatible catalogue cell type (fun _ => true) = true)
      (ended : (callConvert catalogue type (text catalogue cell)).run state =
        (.ok (.done made effort), read))
      (installed : (installMade catalogue cell type made).run read = (ending, later)) :
      ConvertRun registry cell name state (ending.map fun _ => .done () .unknown) later

theorem convertTo_run {registry : Ref Registry} {name : String} {type : TypeId}
    {cell : CellRef Data} {state : State Data}
    (known : (state.registries.get registry).get? name = some type)
    (other : ¬ state.isCompatible catalogue cell type (fun _ => true) = true) :
    ConvertRun catalogue registry cell name state ((convertTo catalogue cell type).run state).1
      ((convertTo catalogue cell type).run state).2 := by
  unfold convertTo
  rw [run_bind]
  cases ended : (callConvert catalogue type (text catalogue cell)).run state with
  | mk ending read =>
      cases ending with
      | error fault => exact .unread known other ended
      | ok result =>
          cases result with
          | fail failure effort => exact .refused known other ended
          | done made effort =>
              have joined : (make made >>= fun payload => install catalogue cell type payload >>=
                  fun _ => pure (Outcome.done () .unknown)) =
                (fun _ => Outcome.done () .unknown) <$> installMade catalogue cell type made := by
                rw [installMade, map_eq_pure_bind, bind_assoc]
              dsimp only
              rw [joined, run_map_ending, run_map_after]
              exact .installed known other ended rfl

theorem convert_run (registry : Ref Registry) (cell : CellRef Data) (name : String)
    (state : State Data) :
    ConvertRun catalogue registry cell name state
      ((convert catalogue registry cell name).run state).1
      ((convert catalogue registry cell name).run state).2 := by
  unfold convert
  rw [run_bind_ok (run_state state)]
  split
  next unknown => exact .unknown unknown
  next type known =>
    split
    next compatible => exact .kept known compatible
    next other => exact convertTo_run catalogue known other

end Action

/-- A step ends and leaves what the action does that it performs. -/
theorem Step.of_performed {Value : Type} {catalogue : Catalogue Data} {operation : Operation Data}
    {action : Action Data Value} {function : Value → Answer Data} {state later : State Data}
    {ended : Except Fault Value} (performs : operation.perform catalogue = function <$> action)
    (run : action.run state = (ended, later)) :
    Step.ending catalogue ⟨state, operation⟩ = ended.map function ∧
      Step.after catalogue ⟨state, operation⟩ = later := by
  rw [Step.ending, Step.after, performs, Action.run_map_ending, Action.run_map_after, run]
  exact ⟨rfl, rfl⟩

end CommandWords
