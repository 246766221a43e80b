/-
This file finds the one change that an operation makes to cells, whatever types their payloads have.
A payload is detached only after the text was stored, unless the caller asks for it.
-/

import CommandWords.Proofs.Session.StepEffect

namespace CommandWords

variable {Data : Type}

/-- A conversion that succeeds has read the text. -/
def Catalogue.Reads (catalogue : Catalogue Data) : Prop :=
  ∀ number view result, (catalogue.custom number).convert view = .decided (.ok result) →
    result.isFail = true

namespace State

def Stored (state : State Data) (cell : CellRef Data) : Prop :=
  ∃ text, (state.cells.get cell).text = some text

/-- The one change of an operation. -/
inductive Change (catalogue : Catalogue Data) (operation : Operation Data) (state : State Data) :
    State Data → Prop
  | nothing : Change catalogue operation state state
  | tableAdded {table : Table} (adds : operation = .addTable table) :
      Change catalogue operation state { state with tables := state.tables.add table }
  | tableChanged {reference : Ref Table} {table : Table}
      (changes : operation = .changeTable reference table) :
      Change catalogue operation state { state with tables := state.tables.set reference table }
  | textDropped {cell : CellRef Data} (drops : operation = .invalidateText cell) :
      Change catalogue operation state (state.setText cell none)
  | installed {cell : CellRef Data} {type : TypeId} {payload : Payload Data}
      {ending : Except Fault Unit} {later : State Data}
      (source : catalogue.Reads →
        (∃ type made, operation = .install cell type made) ∨ state.Stored cell)
      (installed : Action.InstallRun catalogue cell type payload state ending later) :
      Change catalogue operation state later
  | detached {cell : CellRef Data} {ending : Except Fault Unit} {later : State Data}
      (source : operation = .dispose cell ∨ state.Stored cell)
      (detached : Action.DetachRun catalogue cell state ending later) :
      Change catalogue operation state later
  | disposed {cell : CellRef Data} (disposes : operation = .dispose cell) :
      Change catalogue operation state ((state.setRepresentation cell none).setText cell none)
  | born (cell : Cell Data) : Change catalogue operation state (state.addCell cell)

end State

/-- A step prepares, makes one change and then keeps the memory. -/
structure Changed (catalogue : Catalogue Data) (operation : Operation Data)
    (before after : State Data) : Prop where
  intro ::
  exists_change : ∃ prepared changed, before.Prepared catalogue prepared ∧
    State.Change catalogue operation prepared changed ∧ changed.SameMemory after

namespace Changed

variable {catalogue : Catalogue Data} {operation : Operation Data}
  {before prepared after later : State Data}

theorem of_change (change : State.Change catalogue operation before after) :
    Changed catalogue operation before after :=
  ⟨before, after, .start, change, .refl after⟩

theorem of_prepared (prepares : before.Prepared catalogue after) :
    Changed catalogue operation before after :=
  ⟨after, after, prepares, .nothing, .refl after⟩

theorem after_prepared (prepares : before.Prepared catalogue prepared)
    (changed : Changed catalogue operation prepared after) :
    Changed catalogue operation before after := by
  obtain ⟨middle, committed, rest, change, same⟩ := changed.exists_change
  exact ⟨middle, committed, prepares.trans rest, change, same⟩

theorem before_same (changed : Changed catalogue operation before after)
    (same : after.SameMemory later) : Changed catalogue operation before later := by
  obtain ⟨middle, committed, prepares, change, kept⟩ := changed.exists_change
  exact ⟨middle, committed, prepares, change, kept.trans same⟩

end Changed

namespace Action

variable {Value : Type} {catalogue : Catalogue Data} {operation : Operation Data}

theorem changed_ofMade (type : TypeId) (made : Made Data) (state : State Data) :
    Changed catalogue operation state ((ofMade type made).run state).2 := by
  cases made with
  | object content => exact .after_prepared (.object .start content) (.of_change (.born _))
  | existing payload => exact .of_change (.born _)

theorem changed_invalidateText (cell : CellRef Data) (state : State Data) :
    Changed catalogue (.invalidateText cell) state ((invalidateText cell).run state).2 := by
  unfold invalidateText
  rw [run_bind_ok (run_state state)]
  dsimp only
  split
  next => exact .of_prepared .start
  next => exact .of_change (.textDropped rfl)

theorem changed_install {cell : CellRef Data} (state : State Data)
    (source : catalogue.Reads →
      (∃ type made, operation = .install cell type made) ∨ state.Stored cell)
    (type : TypeId) (payload : Payload Data) :
    Changed catalogue operation state ((install catalogue cell type payload).run state).2 :=
  .of_change (.installed source (install_run catalogue cell type payload state))

theorem changed_installMade {cell : CellRef Data} {state : State Data}
    (source : catalogue.Reads →
      (∃ type made, operation = .install cell type made) ∨ state.Stored cell)
    (type : TypeId) (made : Made Data) :
    Changed catalogue operation state ((installMade catalogue cell type made).run state).2 := by
  have prepares : state.Prepared catalogue ((make made).run state).2 := prepares_make made state
  unfold installMade
  cases made with
  | object content =>
      rw [run_bind_ok (run_make_object content state)]
      exact .after_prepared prepares (changed_install (state.addObject content) source type _)
  | existing payload => exact changed_install state source type payload

theorem changed_freeRepresentation (cell : CellRef Data) (state : State Data) :
    Changed catalogue operation state ((freeRepresentation catalogue cell).run state).2 := by
  have run := freeRepresentation_run catalogue cell state
  generalize (freeRepresentation catalogue cell).run state = ended at run ⊢
  obtain ⟨ending, later⟩ := ended
  cases run with
  | bare held => exact .of_prepared .start
  | unread held ended => exact .of_prepared ((prepares_text catalogue cell).ended ended)
  | @detached _ key read _ _ held ended gone =>
      have stored : read.Stored cell := ⟨key, text_stored catalogue ended⟩
      have detached := detach_run catalogue cell read
      rw [gone] at detached
      exact .after_prepared ((prepares_text catalogue cell).ended ended)
        (.of_change (.detached (.inr stored) detached))

theorem changed_duplicate (source : CellRef Data) (state : State Data) :
    Changed catalogue operation state ((duplicate catalogue source).run state).2 := by
  have run := duplicate_run catalogue source state
  generalize (duplicate catalogue source).run state = ended at run ⊢
  obtain ⟨ending, later⟩ := ended
  cases run with
  | bare held => exact .of_change (.born _)
  | refused held ended => exact .of_prepared ((prepares_callDuplicate catalogue _).ended ended)
  | copied held ended =>
      exact .after_prepared ((prepares_callDuplicate catalogue _).ended ended)
        (.of_change (.born _))

theorem changed_dispose (cell : CellRef Data) (state : State Data) :
    Changed catalogue (.dispose cell) state ((dispose catalogue cell).run state).2 := by
  unfold dispose
  rw [run_bind]
  have detached := detach_run catalogue cell state
  generalize (detach catalogue cell).run state = gone at detached ⊢
  obtain ⟨ending, later⟩ := gone
  cases ending with
  | error fault => exact .of_change (.detached (.inl rfl) detached)
  | ok value =>
      cases detached with
      | freed same => exact .before_same (.of_change (.disposed rfl)) (same.setText cell none)

/-- A conversion that reads the text stores it. -/
theorem stored_of_callConvert {cell : CellRef Data} {type : TypeId} {state read : State Data}
    {made : Made Data} {effort : Effort} (reads : catalogue.Reads)
    (ended : (callConvert catalogue type (text catalogue cell)).run state =
      (.ok (.done made effort), read)) : read.Stored cell := by
  cases converts_of_callConvert ended with
  | converted made stored => exact ⟨_, stored⟩
  | decided decided =>
      -- A conversion that is decided without the text fails, so the text was never left unread.
      obtain ⟨calls, decided⟩ := decided
      cases type with
      | resolution =>
          have refuses : Conversion.decided (.ok (.done made effort)) =
            .decided (.ok ResolutionType.refusal) := decided.symm
          cases refuses
      | custom number => cases reads number _ _ decided

theorem changed_convert (registry : Ref Registry) (cell : CellRef Data) (name : String)
    (state : State Data) :
    Changed catalogue operation state ((convert catalogue registry cell name).run state).2 := by
  have run := convert_run catalogue registry cell name state
  generalize (convert catalogue registry cell name).run state = ended at run ⊢
  obtain ⟨ending, later⟩ := ended
  cases run with
  | unknown unknown => exact .of_prepared .start
  | kept known compatible => exact .of_prepared .start
  | unread known other ended =>
      exact .of_prepared ((prepares_callConvert catalogue _ cell).ended ended)
  | refused known other ended =>
      exact .of_prepared ((prepares_callConvert catalogue _ cell).ended ended)
  | @installed type made _ read _ _ known other ended installed =>
      have changed : Changed catalogue operation read
          ((installMade catalogue cell type made).run read).2 := changed_installMade
        (fun reads => .inr (stored_of_callConvert reads ended)) type made
      rw [installed] at changed
      exact .after_prepared ((prepares_callConvert catalogue type cell).ended ended) changed

end Action

namespace Question

variable {catalogue : Catalogue Data} {operation : Operation Data} {question : Question Data}

theorem Reads.stored {state read : State Data} {keywords : List String} {key : String}
    (reads : question.Reads catalogue state keywords key read) : read.Stored question.cell :=
  ⟨key, Action.text_stored catalogue reads.ended⟩

theorem LookupRun.changed {state later : State Data} {ending : Except Fault (Outcome Number)}
    (asked : LookupRun catalogue question state ending later) :
    Changed catalogue operation state later := by
  cases asked with
  | hit kept => exact .of_prepared (.of_same (State.noteEvent_same ..))
  | malformed unkept unformed => exact .of_prepared .start
  | unread unkept ended => exact .of_prepared ((Action.prepares_text catalogue _).ended ended)
  | refused reads unresolved =>
      exact .of_prepared (.aside reads.prepared (State.noteEvent_same ..))
  | settled reads resolved installed =>
      exact .before_same (.after_prepared (.object reads.prepared _)
        (.of_change (.installed (fun _ => .inr reads.stored) installed.run)))
        (State.noteEvent_same ..)
  | lost reads installed =>
      exact .after_prepared (.object reads.prepared _)
        (.of_change (.installed (fun _ => .inr reads.stored) installed.run))

/-- A lookup through an interpreter changes what the lookup does. -/
theorem changed_settle (question : Question Data) (interpreter : InterpreterRef Data)
    (state : State Data) :
    Changed catalogue operation state
      ((question.ask catalogue >>= Action.settle interpreter).run state).2 := by
  have changed : Changed catalogue operation state _ := (question.ask_run catalogue state).changed
  exact changed.before_same (Action.settled_same (question.ask catalogue) interpreter state)

end Question

/-- Every operation makes one change at most. -/
theorem Step.changed (catalogue : Catalogue Data) (step : Step Data) :
    Changed catalogue step.operation step.before (step.after catalogue) := by
  obtain ⟨state, operation⟩ := step
  simp only [Step.after]
  cases operation with
  | addTable table => exact .of_change (.tableAdded rfl)
  | changeTable reference table => exact .of_change (.tableChanged rfl)
  | ofText text => exact .of_change (.born _)
  | ofPayload type made =>
      rw [Operation.perform, Action.run_map_after]
      exact Action.changed_ofMade type made state
  | invalidateText cell =>
      rw [Operation.perform, Action.run_map_after]
      exact Action.changed_invalidateText cell state
  | install cell type made =>
      rw [Operation.perform, Action.run_map_after]
      exact Action.changed_installMade (fun _ => .inl ⟨type, made, rfl⟩) type made
  | freeRepresentation cell =>
      rw [Operation.perform, Action.run_map_after]
      exact Action.changed_freeRepresentation cell state
  | duplicate cell =>
      rw [Operation.perform, Action.run_map_after]
      exact Action.changed_duplicate cell state
  | dispose cell =>
      rw [Operation.perform, Action.run_map_after]
      exact Action.changed_dispose cell state
  | lookup question =>
      rw [Operation.perform, Action.run_map_after]
      exact (question.ask_run catalogue state).changed
  | convert registry cell name =>
      rw [Operation.perform, Action.run_map_after]
      exact Action.changed_convert registry cell name state
  | resolve interpreter cell table stride label exact =>
      rw [Operation.perform, Action.run_map_after, Action.run_resolve]
      exact Question.changed_settle _ interpreter state
  | _ => exact .of_prepared (Operation.prepares_perform (by trivial) state)

end CommandWords
