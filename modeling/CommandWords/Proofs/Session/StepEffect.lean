/-
This file finds the change that each operation makes.
-/

import CommandWords.Proofs.Session.Effect

namespace CommandWords

variable {Data : Type}

/-- The outcome for a key that is not resolved is a failure. -/
theorem Scan.isFail_refusal (scan : Scan) (label key : String) (keywords : List String) :
    (scan.refusal label key keywords).isFail = true := by
  unfold refusal
  split <;> rfl

namespace Question

variable {catalogue : Catalogue Data} {operation : Operation Data}

theorem mark_of_isFail (question : Question Data) {outcome : Outcome Number}
    (fails : outcome.isFail = true) : question.mark (.ok outcome) = .nothing := by
  cases outcome with
  | done index effort => cases fails
  | fail failure effort => rfl

/-- The key that was read is stored, so the cell resolves to the position. -/
theorem Reads.resolves {question : Question Data} {state read : State Data}
    {keywords : List String} {key : String} {position : Nat}
    (reads : Reads catalogue question state keywords key read)
    (resolved : (Scan.run key keywords).resolved? question.exactOnly = some position) :
    read.Resolves question.cell question.exactOnly (question.resolution position) := by
  obtain ⟨effort, formed⟩ := reads.formed
  have stored := Action.text_stored catalogue reads.ended
  refine ⟨key, keywords, effort, position, stored, ?_, resolved, by simp only [resolution]⟩
  rw [reads.prepared.tables]
  exact formed

/-- A resolution takes over the content of the new object. -/
theorem effect_installed {question : Question Data} {read later : State Data} {position : Nat}
    (resolves : read.Resolves question.cell question.exactOnly (question.resolution position))
    (installed : question.Installs catalogue read position (.ok ()) later) :
    Effect catalogue operation read
      (.answered question.cell (question.resolution position)) later := by
  rcases installed.written with ⟨target, accepted, same⟩ | ⟨_, same⟩
  · have prepares : read.Prepared catalogue
        (read.addObject (.resolution (question.resolution position))) := .object .start _
    exact .after_prepared prepares
      (.before_same (.of_commit (.overwritten accepted resolves)) same)
  · exact .before_same (.of_commit (.answered resolves)) same

theorem effect_lost {question : Question Data} {read later : State Data} {position : Nat}
    {fault : Fault} (installed : question.Installs catalogue read position (.error fault) later) :
    Effect catalogue operation read .nothing later := by
  have prepares : read.Prepared catalogue
      (read.addObject (.resolution (question.resolution position))) := .object .start _
  cases installed.run with
  | unassigned accepted failed same => exact .of_prepared (.aside prepares same)
  | lost held failed same =>
      exact .after_prepared prepares (.before_same (.of_commit (.lost held failed)) same)

theorem effect_ask (question : Question Data) (state : State Data) :
    Effect catalogue operation state (question.mark ((question.ask catalogue).run state).1)
      ((question.ask catalogue).run state).2 := by
  have asked := question.ask_run catalogue state
  generalize (question.ask catalogue).run state = ended at asked ⊢
  obtain ⟨ending, later⟩ := ended
  cases asked with
  | hit kept => exact .of_prepared (.of_same (state.noteEvent_same _))
  | malformed unkept unformed => exact .of_prepared .start
  | unread unkept ended => exact .of_prepared ((Action.prepares_text catalogue _).ended ended)
  | refused reads unresolved =>
      rw [question.mark_of_isFail (Scan.isFail_refusal ..)]
      exact .of_prepared (.aside reads.prepared (State.noteEvent_same ..))
  | settled reads resolved installed =>
      have effect : Effect catalogue operation _ (.answered ..) _ :=
        effect_installed (reads.resolves resolved) installed
      exact .after_prepared reads.prepared (.before_same effect (State.noteEvent_same ..))
  | lost reads installed => exact .after_prepared reads.prepared (effect_lost installed)

end Question

namespace Action

variable {catalogue : Catalogue Data} {operation : Operation Data}

theorem effect_freeRepresentation (cell : CellRef Data) (state : State Data) :
    Effect catalogue operation state
      ((Mark.reset cell).whenDone ((freeRepresentation catalogue cell).run state).1)
      ((freeRepresentation catalogue cell).run state).2 := by
  have run := freeRepresentation_run catalogue cell state
  generalize (freeRepresentation catalogue cell).run state = ended at run ⊢
  obtain ⟨ending, later⟩ := ended
  cases run with
  | bare held => exact .of_commit (.bare held)
  | unread held ended => exact .of_prepared ((prepares_text catalogue cell).ended ended)
  | @detached _ _ read _ _ held ended gone =>
      have prepares := (prepares_text catalogue cell).ended ended
      have detached := detach_run catalogue cell read
      rw [gone] at detached
      cases detached with
      | freed same =>
          exact .after_prepared prepares
            (.before_same (.of_commit (.freed (text_stored catalogue ended))) same)
      | lost held failed same =>
          exact .after_prepared prepares (.before_same (.of_commit (.lost held failed)) same)

theorem effect_dispose (cell : CellRef Data) (state : State Data) :
    Effect catalogue operation state
      ((Mark.disposed cell).whenDone ((dispose catalogue cell).run state).1)
      ((dispose catalogue cell).run state).2 := by
  unfold dispose
  rw [run_bind]
  have detached := detach_run catalogue cell state
  generalize (detach catalogue cell).run state = gone at detached ⊢
  obtain ⟨ending, later⟩ := gone
  cases detached with
  | freed same =>
      exact .before_same (.of_commit (.disposed cell)) (same.setText cell none)
  | lost held failed same => exact .before_same (.of_commit (.lost held failed)) same

/-- A copy is a new cell, and its payload is made before it. -/
theorem effect_duplicate (source : CellRef Data) (state : State Data) :
    Effect catalogue operation state
      ((Operation.duplicate source).mark (((duplicate catalogue source).run state).1.map .cell))
      ((duplicate catalogue source).run state).2 := by
  have run := duplicate_run catalogue source state
  generalize (duplicate catalogue source).run state = ended at run ⊢
  obtain ⟨ending, later⟩ := ended
  cases run with
  | bare held => exact .of_commit (.copiedBare held)
  | refused held ended => exact .of_prepared ((prepares_callDuplicate catalogue _).ended ended)
  | @copied representation made _ held ended =>
      obtain ⟨type, payload⟩ := representation
      cases type with
      | resolution =>
          cases ended
          have same := state.noted_same .resolution .duplicate [state.argument payload]
          exact .after_prepared (.of_same same) (.of_commit (.copiedResolution held))
      | custom number =>
          have prepares := (prepares_callDuplicate catalogue ⟨.custom number, payload⟩).ended ended
          have cells := cells_callDuplicate catalogue ⟨.custom number, payload⟩ state
          rw [ended] at cells
          dsimp only at cells
          rw [← cells] at held ⊢
          exact .after_prepared prepares (.of_commit (.copiedCustom held made))

/-- A successful conversion has a custom type, because no text is converted to a resolution. -/
theorem effect_convert (installs : ¬ operation.Plain) (registry : Ref Registry)
    (cell : CellRef Data) (name : String) (state : State Data) :
    Effect catalogue operation state
      ((Operation.convert registry cell name).mark
        (((convert catalogue registry cell name).run state).1.map .converted))
      ((convert catalogue registry cell name).run state).2 := by
  have run := convert_run catalogue registry cell name state
  have custom {type : TypeId} {made : Made Data} {effort : Effort} {read : State Data}
      (ended : (callConvert catalogue type (text catalogue cell)).run state =
        (.ok (.done made effort), read)) : ∃ number, type = .custom number := by
    cases type with
    | resolution => cases ended
    | custom number => exact ⟨number, rfl⟩
  generalize (convert catalogue registry cell name).run state = ended at run ⊢
  obtain ⟨ending, later⟩ := ended
  cases run with
  | unknown unknown => exact .of_prepared .start
  | kept known compatible => exact .of_prepared .start
  | unread known other ended =>
      exact .of_prepared ((prepares_callConvert catalogue _ cell).ended ended)
  | refused known other ended =>
      exact .of_prepared ((prepares_callConvert catalogue _ cell).ended ended)
  | @installed type made _ read _ ending known other ended installed =>
      have prepares := (prepares_callConvert catalogue type cell).ended ended
      obtain ⟨number, rfl⟩ := custom ended
      have effect : Effect catalogue operation read _ _ :=
        effect_installMade installs cell number made read
      rw [installed] at effect
      cases ending with
      | ok value => exact .after_prepared prepares effect
      | error fault => exact .after_prepared prepares effect

theorem prepares_reportUsage (interpreter : InterpreterRef Data) (count : Number)
    (words : List (CellRef Data)) (message : Option String) :
    (reportUsage catalogue interpreter count words message).Prepares catalogue :=
  relates_reportUsage State.Prepared.reporting interpreter count words message

theorem prepares_register (registry : Ref Registry) (type : TypeId) :
    (register catalogue registry type).Prepares catalogue :=
  relates_register State.Prepared.reporting registry type

end Action

/-- A lookup through an interpreter changes the memory as the lookup does. -/
theorem Question.effect_settle {catalogue : Catalogue Data} {operation : Operation Data}
    (question : Question Data) (interpreter : InterpreterRef Data) (state : State Data) :
    Effect catalogue operation state (question.mark ((question.ask catalogue).run state).1)
      ((question.ask catalogue >>= Action.settle interpreter).run state).2 := by
  have effect : Effect catalogue operation state _ _ := question.effect_ask state
  exact effect.before_same (Action.settled_same (question.ask catalogue) interpreter state)

theorem mark_whenDone {Value : Type} {operation : Operation Data} {mark : Mark Data}
    (function : Value → Answer Data)
    (done : ∀ value, operation.mark (.ok (function value)) = mark)
    (failed : ∀ fault, operation.mark (.error fault) = .nothing) (ending : Except Fault Value) :
    operation.mark (ending.map function) = mark.whenDone ending := by
  cases ending with
  | ok value => exact done value
  | error fault => exact failed fault

/-- The operation works on no cell, table or object. It reads texts at most. -/
def Operation.Consults : Operation Data → Prop
  | readText _ => True
  | addRegistry _ => True
  | register _ _ => True
  | showWord _ _ => True
  | usageText _ _ => True
  | addInterpreter _ => True
  | writeResult _ _ => True
  | setAlternate _ _ => True
  | setDispatch _ _ => True
  | reportUsage _ _ _ _ => True
  | configureLedger _ _ => True
  | logEvent _ => True
  | clearLedger => True
  | _ => False

theorem Operation.prepares_perform {catalogue : Catalogue Data} {operation : Operation Data}
    (consults : operation.Consults) : (operation.perform catalogue).Prepares catalogue := by
  cases operation with
  | readText cell => exact Action.Relates.map _ (Action.prepares_text catalogue cell)
  | addRegistry registry => exact fun _ => .of_same ⟨rfl, rfl, rfl⟩
  | register registry type => exact Action.Relates.map _ (Action.prepares_register registry type)
  | showWord mayQuote cell =>
      exact Action.Relates.map _ (Action.prepares_showWord catalogue mayQuote cell)
  | usageText words options =>
      exact Action.Relates.map _ (Action.prepares_usageText catalogue words options)
  | addInterpreter configuration => exact fun _ => .of_same ⟨rfl, rfl, rfl⟩
  | writeResult interpreter result => exact fun _ => .of_same ⟨rfl, rfl, rfl⟩
  | setAlternate interpreter alternate => exact fun _ => .of_same ⟨rfl, rfl, rfl⟩
  | setDispatch interpreter dispatch => exact fun _ => .of_same ⟨rfl, rfl, rfl⟩
  | reportUsage interpreter count words message =>
      exact Action.Relates.map _ (Action.prepares_reportUsage interpreter count words message)
  | configureLedger limit enabled => exact fun _ => .of_same ⟨rfl, rfl, rfl⟩
  | logEvent event => exact fun _ => .of_same ⟨rfl, rfl, rfl⟩
  | clearLedger => exact fun _ => .of_same ⟨rfl, rfl, rfl⟩
  | _ => cases consults

/-- Every operation prepares and then makes the change that its mark tells. -/
theorem Step.effect (catalogue : Catalogue Data) (step : Step Data)
    (custom : step.operation.InstallsCustom) :
    Effect catalogue step.operation step.before (step.mark catalogue) (step.after catalogue) := by
  obtain ⟨state, operation⟩ := step
  simp only [Step.mark, Step.after, Step.ending]
  cases operation with
  | addTable table => exact .of_commit (.tableAdded table)
  | changeTable reference table => exact .of_commit (.tableChanged rfl)
  | ofText text => exact .of_commit (.born text)
  | ofPayload type made =>
      cases type with
      | resolution => exact absurd rfl custom
      | custom number =>
          have effect : Effect catalogue (.ofPayload (.custom number) made) state _ _ :=
            Action.effect_ofMade id number made state
          cases made with
          | object content => exact effect
          | existing payload => exact effect
  | invalidateText cell =>
      rw [Operation.perform, Action.run_map_after]
      exact Action.effect_invalidateText cell state
  | install cell type made =>
      cases type with
      | resolution => exact absurd rfl custom
      | custom number =>
          rw [Operation.perform, Action.run_map_after, Action.run_map_ending]
          dsimp only [Operation.question?]
          rw [mark_whenDone _ (fun _ => rfl) (fun _ => rfl)]
          exact Action.effect_installMade id cell number made state
  | freeRepresentation cell =>
      rw [Operation.perform, Action.run_map_after, Action.run_map_ending]
      dsimp only [Operation.question?]
      rw [mark_whenDone _ (fun _ => rfl) (fun _ => rfl)]
      exact Action.effect_freeRepresentation cell state
  | duplicate cell =>
      rw [Operation.perform, Action.run_map_after, Action.run_map_ending]
      exact Action.effect_duplicate cell state
  | dispose cell =>
      rw [Operation.perform, Action.run_map_after, Action.run_map_ending]
      dsimp only [Operation.question?]
      rw [mark_whenDone _ (fun _ => rfl) (fun _ => rfl)]
      exact Action.effect_dispose cell state
  | lookup question =>
      rw [Operation.perform, Action.run_map_after]
      exact question.effect_ask state
  | convert registry cell name =>
      rw [Operation.perform, Action.run_map_after, Action.run_map_ending]
      exact Action.effect_convert id registry cell name state
  | resolve interpreter cell table stride label exact =>
      rw [Operation.perform, Action.run_map_after]
      exact Question.effect_settle _ interpreter state
  | _ => exact .of_prepared (Operation.prepares_perform (by trivial) state)

end CommandWords
