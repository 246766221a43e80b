/-
This file finds the operations that leave a cell without both of its forms: it is disposed of, it
copies such a cell, or its payload fails to be freed for another one while no text is stored.
-/

import CommandWords.Proofs.Session.Change
import CommandWords.Proofs.Session.Conversion
import CommandWords.Proofs.Session.Turning

namespace CommandWords

variable {Data : Type} {catalogue : Catalogue Data}

namespace State

/-- The cell has neither a text nor a representation. -/
structure Formless (state : State Data) (cell : CellRef Data) : Prop where
  text : (state.cells.get cell).text = none
  representation : (state.cells.get cell).representation = none

/-- A cell that is formless afterwards was formless before. -/
def KeepsForm (cell : CellRef Data) (first second : State Data) : Prop :=
  second.cells.has cell = true → second.Formless cell →
    first.cells.has cell = true ∧ first.Formless cell

variable {first second third : State Data} {cell target : CellRef Data}

instance : IsPreorder (State Data) (KeepsForm cell) where
  refl _ known formless := ⟨known, formless⟩
  trans _ _ _ before after known formless := by
    obtain ⟨between, lost⟩ := after known formless
    exact before between lost

theorem KeepsForm.of_cells (cells : second.cells = first.cells) : KeepsForm cell first second := by
  intro known formless
  rw [cells] at known
  exact ⟨known, by rw [← cells, formless.text], by rw [← cells, formless.representation]⟩

/-- Where one cell alone is written, it is enough to look at that cell. -/
theorem KeepsForm.of_written (size : second.cells.size = first.cells.size)
    (others : ∀ other, other ≠ target → second.cells.get other = first.cells.get other)
    (written : target = cell → second.Formless cell → first.Formless cell) :
    KeepsForm cell first second := by
  intro known formless
  rw [Store.has, size] at known
  refine ⟨known, ?_⟩
  by_cases same : cell = target
  · exact written same.symm formless
  · have kept := others cell same
    exact ⟨by rw [← kept, formless.text], by rw [← kept, formless.representation]⟩

theorem Prepared.text_missing (prepared : first.Prepared catalogue second)
    (missing : (second.cells.get cell).text = none) : (first.cells.get cell).text = none := by
  cases stored : (first.cells.get cell).text with
  | none => rfl
  | some text => cases missing.symm.trans (prepared.text_stored stored)

theorem Prepared.formless (prepared : first.Prepared catalogue second)
    (formless : second.Formless cell) : first.Formless cell where
  text := prepared.text_missing formless.text
  representation := by rw [← prepared.representation, formless.representation]

theorem Prepared.keepsForm (prepared : first.Prepared catalogue second) :
    KeepsForm cell first second := by
  intro known formless
  rw [Store.has, prepared.cellCount] at known
  exact ⟨known, prepared.formless formless⟩

theorem keepsForm_setRepresentation {representation : Option (Representation Data)}
    (kept : target = cell → representation = none → first.Stored cell) :
    KeepsForm cell first (first.setRepresentation target representation) := by
  refine .of_written rfl (fun other different => get_setRepresentation_other _ _ different _) ?_
  rintro rfl formless
  have bare := formless.representation
  rw [get_setRepresentation] at bare
  have text := formless.text
  rw [text_setRepresentation] at text
  obtain ⟨found, stored⟩ := kept rfl bare
  cases text.symm.trans stored

/-- A text may go where a representation is. -/
theorem keepsForm_setText {representation : Representation Data}
    (held : (first.cells.get target).representation = some representation)
    (text : Option String) : KeepsForm cell first (first.setText target text) := by
  refine .of_written rfl (fun other different => get_setText_other _ _ different _) ?_
  rintro rfl formless
  have bare := formless.representation
  rw [representation_setText, held] at bare
  cases bare

theorem keepsForm_addCell {made : Cell Data}
    (formed : cell = first.cells.next → made.text = none → made.representation = none → False) :
    KeepsForm cell first (first.addCell made) := by
  intro known formless
  by_cases same : cell = first.cells.next
  · subst same
    have text := formless.text
    have bare := formless.representation
    rw [get_addCell_next] at text bare
    exact (formed rfl text bare).elim
  · refine ⟨Store.has_of_add same known, ?_, ?_⟩
    · rw [← formless.text, get_addCell_other _ same]
    · rw [← formless.representation, get_addCell_other _ same]

end State

namespace Action

open State (KeepsForm)

variable {state later : State Data} {cell target : CellRef Data}

theorem InstallRun.keepsForm {type : TypeId} {payload : Payload Data} {ending : Except Fault Unit}
    (installed : InstallRun catalogue target type payload state ending later)
    (kept : target = cell → state.Stored cell) : KeepsForm cell state later := by
  cases installed with
  | assigned accepted written same =>
      apply KeepsForm.of_cells
      rw [same.cells, State.cells_setObject]
  | unassigned accepted failed same => exact .of_cells same.cells
  | replaced separate same =>
      apply trans_of (KeepsForm cell) _ (KeepsForm.of_cells same.cells)
      exact State.keepsForm_setRepresentation nofun
  | lost held failed same =>
      apply trans_of (KeepsForm cell) _ (KeepsForm.of_cells same.cells)
      exact State.keepsForm_setRepresentation fun same _ => kept same

theorem DetachRun.keepsForm {ending : Except Fault Unit}
    (detached : DetachRun catalogue target state ending later)
    (kept : target = cell → state.Stored cell) : KeepsForm cell state later := by
  have bared : KeepsForm cell state (state.setRepresentation target none) :=
    State.keepsForm_setRepresentation fun same _ => kept same
  cases detached with
  | freed same => exact trans_of (KeepsForm cell) bared (.of_cells same.cells)
  | lost held failed same => exact trans_of (KeepsForm cell) bared (.of_cells same.cells)

theorem run_text_of_formless (formless : state.Formless cell) :
    (text catalogue cell).run state = (.error .formless, state) := by
  unfold text
  rw [run_bind_ok (run_state state)]
  simp only [formless.text, formless.representation, run_fail]

theorem keepsForm_ofText (text : String) : (ofText text).Relates (KeepsForm cell) := by
  intro state
  show KeepsForm cell state (state.addCell ⟨some text, none⟩)
  apply State.keepsForm_addCell
  simp

theorem keepsForm_ofMade (type : TypeId) (made : Made Data) :
    (ofMade type made).Relates (KeepsForm cell) := by
  have makes : (make made).Relates (KeepsForm cell) :=
    relates_make (fun _ _ => .of_cells rfl) made
  apply makes.bind
  intro payload state
  show KeepsForm cell state (state.addCell ⟨none, some ⟨type, payload⟩⟩)
  apply State.keepsForm_addCell
  simp

theorem keepsForm_invalidateText (target : CellRef Data) :
    (invalidateText target).Relates (KeepsForm cell) := by
  intro state
  unfold invalidateText
  rw [run_bind_ok (run_state state)]
  cases held : (state.cells.get target).representation with
  | none =>
      simp only [held]
      exact refl_of (KeepsForm cell) state
  | some representation =>
      simp only [held]
      exact State.keepsForm_setText held none

/-- The text is stored before the representation is detached. -/
theorem keepsForm_freeRepresentation (target : CellRef Data) :
    (freeRepresentation catalogue target).Relates (KeepsForm cell) := by
  intro state
  have run := freeRepresentation_run catalogue target state
  generalize (freeRepresentation catalogue target).run state = ended at run ⊢
  obtain ⟨ending, later⟩ := ended
  cases run with
  | bare held => exact refl_of (KeepsForm cell) _
  | unread held ended => exact ((prepares_text catalogue target).ended ended).keepsForm
  | @detached _ key read _ _ held ended gone =>
      have before : KeepsForm cell state read :=
        ((prepares_text catalogue target).ended ended).keepsForm
      have detached := detach_run catalogue target read
      rw [gone] at detached
      apply trans_of (KeepsForm cell) before
      apply detached.keepsForm
      rintro rfl
      exact ⟨key, text_stored catalogue ended⟩

theorem keepsForm_dispose (different : target ≠ cell) :
    (dispose catalogue target).Relates (KeepsForm cell) := by
  have detached : (detach catalogue target).Relates (KeepsForm cell) := fun state =>
    (detach_run catalogue target state).keepsForm fun same => absurd same different
  refine detached.bind fun _ state => ?_
  show KeepsForm cell state (state.setText target none)
  refine .of_written rfl ?_ fun same => absurd same different
  exact fun other apart => state.get_setText_other target apart none

end Action

/-- The key is stored before an answer is installed. -/
theorem Question.LookupRun.keepsForm {question : Question Data} {state later : State Data}
    {ending : Except Fault (Outcome Number)} {cell : CellRef Data}
    (asked : LookupRun catalogue question state ending later) : State.KeepsForm cell state later := by
  have answering {read : State Data} {keywords : List String} {key : String} {position : Nat}
      {ending : Except Fault Unit} {later : State Data}
      (reads : question.Reads catalogue state keywords key read)
      (installed : question.Installs catalogue read position ending later) :
      State.KeepsForm cell state later := by
    apply trans_of (State.KeepsForm cell) (State.Prepared.object reads.prepared _).keepsForm
    apply installed.run.keepsForm
    rintro rfl
    exact reads.stored
  cases asked with
  | hit kept => exact .of_cells (State.noteEvent_same ..).cells
  | malformed unkept unformed => exact refl_of (State.KeepsForm cell) state
  | unread unkept ended => exact ((Action.prepares_text catalogue _).ended ended).keepsForm
  | refused reads unresolved =>
      exact (State.Prepared.aside reads.prepared (State.noteEvent_same ..)).keepsForm
  | settled reads resolved installed =>
      exact trans_of (State.KeepsForm cell) (answering reads installed)
        (.of_cells (State.noteEvent_same ..).cells)
  | lost reads installed => exact answering reads installed

/-- The free hook of the representation that a cell had failed, and nothing ran after that. -/
def Unfreed (catalogue : Catalogue Data) (cell : CellRef Data) (fault : Fault)
    (before after : State Data) : Prop :=
  ∃ (call : HookCall Data) (representation : Representation Data),
    (before.cells.get cell).representation = some representation ∧
      call.Frees representation ∧ call.FailsLast catalogue after fault

/-- A cell without a text loses its representation as well. -/
structure Stripped (catalogue : Catalogue Data) (cell : CellRef Data) (fault : Fault)
    (before after : State Data) : Prop where
  text : (before.cells.get cell).text = none
  unfreed : Unfreed catalogue cell fault before after

theorem Stripped.after_prepared {cell : CellRef Data} {fault : Fault}
    {before prepared after : State Data} (prepares : before.Prepared catalogue prepared)
    (stripped : Stripped catalogue cell fault prepared after) :
    Stripped catalogue cell fault before after := by
  obtain ⟨call, representation, held, failed⟩ := stripped.unfreed
  rw [prepares.representation] at held
  exact ⟨prepares.text_missing stripped.text, call, representation, held, failed⟩

/-- An action that was to install a representation leaves none only where a free hook fails. -/
theorem Turnover.unfreed_of_bare {cell : CellRef Data} {start later : State Data}
    {ending : Except Fault (Option (Representation Data))}
    (turnover : Turnover catalogue cell start ending later) (installs : ending ≠ .ok none)
    (bare : (later.cells.get cell).representation = none) :
    (start.cells.get cell).representation = none ∨
      ∃ fault, ending = .error fault ∧ Unfreed catalogue cell fault start later := by
  cases turnover with
  | kept idle quiet => exact .inl ((quiet.representation cell).symm.trans bare)
  | assigned quiet rest =>
      have before := quiet.representation cell
      have after := rest.representation cell
      exact .inl (before.symm.trans (after.symm.trans bare))
  | freed quiet detached rest => exact absurd rfl installs
  | @lost middle representation fault quiet held failed =>
      refine .inr ⟨fault, rfl, middle.freeCall representation, representation, ?_, ?_, ?_⟩
      · rw [← quiet.representation, held]
      · exact ⟨rfl, rfl, rfl⟩
      · exact ⟨rfl, _, rfl, failed⟩
  | installed quiet detached rest =>
      rw [rest.representation, State.get_setRepresentation] at bare
      cases bare

/-- An action that works on one cell makes and takes away none. -/
theorem Turnover.cellCount {cell : CellRef Data} {start later : State Data}
    {ending : Except Fault (Option (Representation Data))}
    (turnover : Turnover catalogue cell start ending later) :
    later.cells.size = start.cells.size := by
  obtain ⟨made, trace⟩ := turnover.exists_trace
  exact trace.turned.size

theorem State.KeepsForm.of_formless {cell : CellRef Data} {first second : State Data}
    (size : second.cells.size = first.cells.size) (formless : first.Formless cell) :
    State.KeepsForm cell first second := by
  intro known _
  rw [Store.has, size] at known
  exact ⟨known, formless⟩

namespace Action

variable {state later : State Data} {cell : CellRef Data} {type : TypeId} {made : Made Data}
  {ending : Except Fault Unit}

theorem keepsForm_installMade {target : CellRef Data} (different : target ≠ cell)
    (type : TypeId) (made : Made Data) :
    (installMade catalogue target type made).Relates (State.KeepsForm cell) := by
  intro state
  obtain ⟨payload, present, run, cells, _⟩ := run_installMade made state
  rw [run]
  apply trans_of (State.KeepsForm cell) (State.KeepsForm.of_cells cells)
  exact (install_run catalogue target type payload present).keepsForm fun same =>
    absurd same different

theorem installMade_keeps_or_strips
    (installs : (installMade catalogue cell type made).run state = (ending, later)) :
    State.KeepsForm cell state later ∨
      ∃ fault, ending = .error fault ∧ Stripped catalogue cell fault state later := by
  have turnover := turnover_installMade catalogue cell state type made
  rw [installs] at turnover
  obtain ⟨payload, present, run, cells, _⟩ := run_installMade made state
  have text : (later.cells.get cell).text = (state.cells.get cell).text := by
    have installed := install_run catalogue cell type payload present
    rw [← run, installs] at installed
    rw [← cells, ← (installed.frame).2 cell]
  by_cases formless : later.Formless cell
  · have missing := text.symm.trans formless.text
    have unfreed := turnover.unfreed_of_bare (by cases ending <;> exact nofun)
      formless.representation
    rcases unfreed with bare | ⟨fault, failed, unfreed⟩
    · exact .inl (.of_formless turnover.cellCount ⟨missing, bare⟩)
    · cases ending with
      | ok value => cases failed
      | error other =>
          cases failed
          exact .inr ⟨fault, rfl, missing, unfreed⟩
  · exact .inl fun _ lost => absurd lost formless

theorem keepsForm_convert {target : CellRef Data} (different : target ≠ cell)
    (registry : Ref Registry) (name : String) :
    (convert catalogue registry target name).Relates (State.KeepsForm cell) := by
  intro state
  have run := convert_run catalogue registry target name state
  generalize (convert catalogue registry target name).run state = ended at run ⊢
  obtain ⟨ending, later⟩ := ended
  cases run with
  | unknown unknown => exact refl_of (State.KeepsForm cell) _
  | kept known compatible => exact refl_of (State.KeepsForm cell) _
  | unread known other ended => exact ((prepares_callConvert catalogue _ _).ended ended).keepsForm
  | refused known other ended => exact ((prepares_callConvert catalogue _ _).ended ended).keepsForm
  | @installed _ _ _ read _ _ known other ended installed =>
      have before : State.KeepsForm cell state read :=
        ((prepares_callConvert catalogue _ _).ended ended).keepsForm
      exact trans_of (State.KeepsForm cell) before
        ((keepsForm_installMade different _ _).ended installed)

/-- A conversion that strips the cell never asked for its text. -/
theorem convert_keeps_or_strips {registry : Ref Registry} {name : String}
    {ending : Except Fault (Outcome Unit)}
    (converts : (convert catalogue registry cell name).run state = (ending, later)) :
    State.KeepsForm cell state later ∨ ∃ fault type made effort calls, ending = .error fault ∧
      Stripped catalogue cell fault state later ∧
      (state.registries.get registry).get? name = some type ∧
      (catalogue.describe type).convert ⟨state.tables, calls⟩ =
        .decided (.ok (.done made effort)) := by
  have run := convert_run catalogue registry cell name state
  rw [converts] at run
  dsimp only at run
  cases run with
  | unknown unknown => exact .inl (refl_of (State.KeepsForm cell) _)
  | kept known compatible => exact .inl (refl_of (State.KeepsForm cell) _)
  | unread known other ended =>
      exact .inl ((prepares_callConvert catalogue _ _).ended ended).keepsForm
  | refused known other ended =>
      exact .inl ((prepares_callConvert catalogue _ _).ended ended).keepsForm
  | @installed type made effort read _ ending known other ended installed =>
      have prepared := (prepares_callConvert catalogue type cell).ended ended
      rcases installMade_keeps_or_strips installed with keeps | ⟨fault, rfl, stripped⟩
      · exact .inl (trans_of (State.KeepsForm cell) prepared.keepsForm keeps)
      · cases converts_of_callConvert ended with
        | converted made stored => cases stripped.text.symm.trans stored
        | decided decided =>
            obtain ⟨calls, decided⟩ := decided
            exact .inr ⟨fault, type, made, effort, calls, rfl, .after_prepared prepared stripped,
              known, decided⟩

/-- Only the copy of a formless cell is made without a form. -/
theorem duplicate_keeps_or_copies {source : CellRef Data} {ending : Except Fault (CellRef Data)}
    (cell : CellRef Data)
    (duplicates : (duplicate catalogue source).run state = (ending, later)) :
    State.KeepsForm cell state later ∨ state.Formless source ∧ ending = .ok cell := by
  have run := duplicate_run catalogue source state
  rw [duplicates] at run
  dsimp only at run
  cases run with
  | bare held =>
      by_cases copied : cell = state.cells.next ∧ (state.cells.get source).text = none
      · obtain ⟨rfl, missing⟩ := copied
        exact .inr ⟨⟨missing, held⟩, rfl⟩
      · apply Or.inl
        apply State.keepsForm_addCell
        exact fun same missing _ => copied ⟨same, missing⟩
  | refused held ended =>
      exact .inl ((prepares_callDuplicate catalogue _).ended ended).keepsForm
  | @copied _ _ read held ended =>
      have before : State.KeepsForm cell state read :=
        ((prepares_callDuplicate catalogue _).ended ended).keepsForm
      apply Or.inl
      apply trans_of (State.KeepsForm cell) before
      exact State.keepsForm_addCell nofun

end Action

namespace Step

/-- The ways in which a step leaves a cell without both of its forms. -/
inductive Empties (catalogue : Catalogue Data) (cell : CellRef Data) : Step Data → Prop
  | disposed (state : State Data) : Empties catalogue cell ⟨state, .dispose cell⟩
  | installed {state : State Data} {type : TypeId} {made : Made Data} {fault : Fault}
      (failed : ending catalogue ⟨state, .install cell type made⟩ = .error fault)
      (stripped : Stripped catalogue cell fault state
        (after catalogue ⟨state, .install cell type made⟩)) :
      Empties catalogue cell ⟨state, .install cell type made⟩
  /-- The type makes a payload without a look at the text. -/
  | converted {state : State Data} {registry : Ref Registry} {name : String} {type : TypeId}
      {made : Made Data} {effort : Effort} {calls : List (HookCall Data)} {fault : Fault}
      (known : (state.registries.get registry).get? name = some type)
      (decided : (catalogue.describe type).convert ⟨state.tables, calls⟩ =
        .decided (.ok (.done made effort)))
      (failed : ending catalogue ⟨state, .convert registry cell name⟩ = .error fault)
      (stripped : Stripped catalogue cell fault state
        (after catalogue ⟨state, .convert registry cell name⟩)) :
      Empties catalogue cell ⟨state, .convert registry cell name⟩
  | copied {state : State Data} {source : CellRef Data} (formless : state.Formless source)
      (made : ending catalogue ⟨state, .duplicate source⟩ = .ok (.cell cell)) :
      Empties catalogue cell ⟨state, .duplicate source⟩

variable {cell : CellRef Data}

theorem install_keeps_or_empties (state : State Data) (type : TypeId) (made : Made Data) :
    State.KeepsForm cell state (after catalogue ⟨state, .install cell type made⟩) ∨
      Empties catalogue cell ⟨state, .install cell type made⟩ := by
  cases installs : (Action.installMade catalogue cell type made).run state with
  | mk ended later =>
      obtain ⟨ending, rfl⟩ : ending catalogue ⟨state, .install cell type made⟩ = _ ∧ _ = later :=
        of_performed rfl installs
      rcases Action.installMade_keeps_or_strips installs with keeps | ⟨fault, rfl, stripped⟩
      · exact .inl keeps
      · exact .inr (.installed ending stripped)

theorem convert_keeps_or_empties (state : State Data) (registry : Ref Registry) (name : String) :
    State.KeepsForm cell state (after catalogue ⟨state, .convert registry cell name⟩) ∨
      Empties catalogue cell ⟨state, .convert registry cell name⟩ := by
  cases converts : (Action.convert catalogue registry cell name).run state with
  | mk ended later =>
      obtain ⟨ending, rfl⟩ : ending catalogue ⟨state, .convert registry cell name⟩ = _ ∧
          _ = later := of_performed rfl converts
      rcases Action.convert_keeps_or_strips converts with
        keeps | ⟨fault, type, made, effort, calls, rfl, stripped, known, decided⟩
      · exact .inl keeps
      · exact .inr (.converted known decided ending stripped)

theorem duplicate_keeps_or_empties (state : State Data) (source : CellRef Data) :
    State.KeepsForm cell state (after catalogue ⟨state, .duplicate source⟩) ∨
      Empties catalogue cell ⟨state, .duplicate source⟩ := by
  cases duplicates : (Action.duplicate catalogue source).run state with
  | mk ended later =>
      obtain ⟨ending, rfl⟩ : ending catalogue ⟨state, .duplicate source⟩ = _ ∧ _ = later :=
        of_performed rfl duplicates
      rcases Action.duplicate_keeps_or_copies cell duplicates with keeps | ⟨formless, rfl⟩
      · exact .inl keeps
      · exact .inr (.copied formless ending)

variable (catalogue) in
/-- A cell that is formless after a step was formless before, unless the step made it so. -/
theorem keeps_or_empties (cell : CellRef Data) (step : Step Data) :
    step.before.KeepsForm cell (step.after catalogue) ∨ step.Empties catalogue cell := by
  obtain ⟨state, operation⟩ := step
  have keeps {Value : Type} {action : Action Data Value} {function : Value → Answer Data}
      (relates : action.Relates (State.KeepsForm cell))
      (performs : operation.perform catalogue = function <$> action) :
      State.KeepsForm cell state (after catalogue ⟨state, operation⟩) := by
    rw [after, performs]
    exact relates.map function state
  cases operation with
  | addTable table => exact .inl (keeps (fun _ => .of_cells rfl) rfl)
  | changeTable reference table => exact .inl (keeps (fun _ => .of_cells rfl) rfl)
  | ofText text => exact .inl (keeps (Action.keepsForm_ofText text) rfl)
  | ofPayload type made => exact .inl (keeps (Action.keepsForm_ofMade type made) rfl)
  | invalidateText target => exact .inl (keeps (Action.keepsForm_invalidateText target) rfl)
  | freeRepresentation target =>
      exact .inl (keeps (Action.keepsForm_freeRepresentation target) rfl)
  | install target type made =>
      by_cases same : target = cell
      · subst same
        exact install_keeps_or_empties state type made
      · exact .inl (keeps (Action.keepsForm_installMade same type made) rfl)
  | convert registry target name =>
      by_cases same : target = cell
      · subst same
        exact convert_keeps_or_empties state registry name
      · exact .inl (keeps (Action.keepsForm_convert same registry name) rfl)
  | dispose target =>
      by_cases same : target = cell
      · subst same
        exact .inr (.disposed state)
      · exact .inl (keeps (Action.keepsForm_dispose same) rfl)
  | duplicate source => exact duplicate_keeps_or_empties state source
  | lookup question =>
      exact .inl (keeps (fun state => (question.ask_run catalogue state).keepsForm) rfl)
  | resolve interpreter target table stride label exact =>
      refine .inl (keeps (fun state => ?_) rfl)
      rw [Action.run_resolve]
      apply trans_of (State.KeepsForm cell) (Question.ask_run catalogue _ state).keepsForm
      exact .of_cells (Action.settled_same _ interpreter state).cells
  | _ => exact .inl (Operation.prepares_perform (by trivial) state).keepsForm

end Step

/-- The caller disposes of the cell, installs a payload in it or converts it. -/
def Operation.Replaces (cell : CellRef Data) : Operation Data → Prop
  | dispose target => target = cell
  | install target _ _ => target = cell
  | convert _ target _ => target = cell
  | _ => False

/-- The copy of a cell is none of the cells that are there. -/
theorem Step.Empties.replaces {step : Step Data} {cell : CellRef Data}
    (empties : step.Empties catalogue cell) (known : step.before.cells.has cell = true) :
    step.operation.Replaces cell := by
  cases empties with
  | disposed state => rfl
  | installed failed stripped => rfl
  | converted known decided failed stripped => rfl
  | @copied state source formless made =>
      have run := Action.duplicate_run catalogue source state
      rw [Step.ending, Operation.perform, Action.run_map_ending] at made
      generalize (Action.duplicate catalogue source).run state = ended at run made
      obtain ⟨ending, later⟩ := ended
      cases run with
      | bare held =>
          cases made
          exact absurd rfl (Store.ne_next_of_has known)
      | refused held ended => cases held.symm.trans formless.representation
      | copied held ended => cases held.symm.trans formless.representation

/-- A cell without a form has lost it at a step of the run, and had none ever since. -/
theorem session_emptied {operations : List (Operation Data)} {cell : CellRef Data}
    (known : (session catalogue operations).cells.has cell = true)
    (formless : (session catalogue operations).Formless cell) :
    ∃ later operation past, operations = later ++ operation :: past ∧
      Step.Empties catalogue cell ⟨session catalogue past, operation⟩ ∧
      ((session catalogue past).cells.has cell = true →
        ¬ (session catalogue past).Formless cell) ∧
      ∀ since, since <:+ later →
        (session catalogue (since ++ operation :: past)).Formless cell := by
  induction operations with
  | nil => cases known
  | cons operation earlier inductionHypothesis =>
      by_cases before : (session catalogue earlier).cells.has cell = true ∧
        (session catalogue earlier).Formless cell
      · obtain ⟨later, emptying, past, rfl, empties, formed, lasting⟩ :=
          inductionHypothesis before.1 before.2
        refine ⟨operation :: later, emptying, past, rfl, empties, formed, ?_⟩
        intro since suffix
        rcases List.suffix_cons_iff.mp suffix with rfl | suffix
        · exact formless
        · exact lasting since suffix
      · have step := Step.keeps_or_empties catalogue cell
          ⟨session catalogue earlier, operation⟩
        rcases step with keeps | empties
        · exact absurd (keeps known formless) before
        · refine ⟨[], operation, earlier, rfl, empties, fun old lost => before ⟨old, lost⟩, ?_⟩
          intro since suffix
          obtain rfl := List.suffix_nil.mp suffix
          exact formless

/-- A cell that has neither form was disposed of, copied from such a cell, or stripped by a failed
free hook while it had no text. No other operation takes the last form of a cell. -/
theorem last_form_kept (catalogue : Catalogue Data) (operations : List (Operation Data))
    (cell : CellRef Data) :
    let state := session catalogue operations
    (state.cells.has cell = true → state.Formless cell →
      (Action.text catalogue cell).run state = (.error .formless, state) ∧
      ∃ later operation past, operations = later ++ operation :: past ∧
        Step.Empties catalogue cell ⟨session catalogue past, operation⟩ ∧
        ((session catalogue past).cells.has cell = true →
          ¬ (session catalogue past).Formless cell) ∧
        ∀ since, since <:+ later →
          (session catalogue (since ++ operation :: past)).Formless cell) ∧
    ∀ operation : Operation Data, state.cells.has cell = true → ¬ state.Formless cell →
      (Step.after catalogue ⟨state, operation⟩).Formless cell →
        Step.Empties catalogue cell ⟨state, operation⟩ ∧ operation.Replaces cell := by
  intro state
  constructor
  · intro known formless
    refine ⟨?_, session_emptied known formless⟩
    exact Action.run_text_of_formless formless
  · intro operation known formed formless
    have step := Step.keeps_or_empties catalogue cell ⟨state, operation⟩
    rcases step with keeps | empties
    · exact absurd (keeps (Step.has_after known) formless).2 formed
    · exact ⟨empties, empties.replaces known⟩

/-- A payload without a text that cannot be freed for another one, and a copy of the cell. -/
theorem last_form_kept_refused :
    let catalogue : Catalogue Unit :=
      { custom := fun number =>
          { Catalogue.inert.custom number with free := fun _ _ => .error (.raised "busy") } }
    let lost : Operation Unit := .install ⟨0⟩ (.custom 1) (.object (.data ()))
    let past : List (Operation Unit) := [.ofPayload (.custom 0) (.object (.data ()))]
    let state := session catalogue (.duplicate ⟨0⟩ :: lost :: past)
    (session catalogue past).cells.has ⟨0⟩ = true ∧ ¬ (session catalogue past).Formless ⟨0⟩ ∧
      Step.Empties catalogue ⟨0⟩ ⟨session catalogue past, lost⟩ ∧
        state.cells.has ⟨1⟩ = true ∧ state.Formless ⟨1⟩ ∧
          ((Action.text catalogue ⟨1⟩).run state).1 = .error .formless := by
  intro catalogue lost past state
  have known : (session catalogue past).cells.has ⟨0⟩ = true := by decide +kernel
  have formed : ¬ (session catalogue past).Formless ⟨0⟩ := by
    intro formless
    cases formless.representation
  have emptied : (Step.after catalogue ⟨session catalogue past, lost⟩).Formless ⟨0⟩ := ⟨rfl, rfl⟩
  have copied : state.cells.has ⟨1⟩ = true := by decide +kernel
  have formless : state.Formless ⟨1⟩ := ⟨rfl, rfl⟩
  have lasting := (last_form_kept catalogue past ⟨0⟩).2 lost known formed emptied
  have origin := (last_form_kept catalogue (.duplicate ⟨0⟩ :: lost :: past) ⟨1⟩).1 copied formless
  exact ⟨known, formed, lasting.1, copied, formless, congrArg Prod.fst origin.1⟩

end CommandWords
