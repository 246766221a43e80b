/-
This file shows that work on other cells leaves a cell with a resolution as it is: its text, the
object that it holds and the content of this object.
-/

import CommandWords.Proofs.Session.Foreign
import CommandWords.Proofs.Session.KeptText
import CommandWords.Proofs.Session.Provenance

namespace CommandWords

variable {Data : Type}

/-- The operation works on the cell. One that copies or prints it does not. -/
def Operation.Addresses (operation : Operation Data) (cell : CellRef Data) : Prop :=
  operation.cell? = some cell ∨ operation = .readText cell ∨ operation = .invalidateText cell

theorem Cell.eq_of_parts {first second : Cell Data} (text : first.text = second.text)
    (representation : first.representation = second.representation) : first = second := by
  cases first
  cases second
  subst text representation
  rfl

namespace State

def SameText (cell : CellRef Data) (first second : State Data) : Prop :=
  (second.cells.get cell).text = (first.cells.get cell).text

instance (cell : CellRef Data) : IsPreorder (State Data) (SameText cell) where
  refl _ := rfl
  trans _ _ _ before after := after.trans before

/-- A cell that keeps an answer keeps one still and has the same text. -/
def SamePrint (catalogue : Catalogue Data) (cell : CellRef Data) (first second : State Data) :
    Prop :=
  first.resolution? catalogue cell ≠ none →
    second.resolution? catalogue cell ≠ none ∧ first.SameText cell second

instance (catalogue : Catalogue Data) (cell : CellRef Data) :
    IsPreorder (State Data) (SamePrint catalogue cell) where
  refl _ kept := ⟨kept, rfl⟩
  trans _ _ _ before after kept := by
    obtain ⟨still, text⟩ := before kept
    obtain ⟨last, again⟩ := after still
    exact ⟨last, again.trans text⟩

end State

namespace Action

open State (SameText SamePrint)

variable (catalogue : Catalogue Data) {cell other : CellRef Data}

section text

theorem sameText_detach (other : CellRef Data) :
    (detach catalogue other).Relates (SameText cell) :=
  fun state => (detach_run catalogue other state).text catalogue cell

theorem sameText_install (other : CellRef Data) (type : TypeId) (payload : Payload Data) :
    (install catalogue other type payload).Relates (SameText cell) :=
  fun state => (install_run catalogue other type payload state).frame.2 cell

theorem sameText_make (made : Made Data) : (make made).Relates (SameText cell) :=
  relates_make (fun _ _ => rfl) made

theorem sameText_installMade (other : CellRef Data) (type : TypeId) (made : Made Data) :
    (installMade catalogue other type made).Relates (SameText cell) :=
  (sameText_make made).bind fun _ => sameText_install catalogue other type _

theorem sameText_register (registry : Ref Registry) (type : TypeId) :
    (register catalogue registry type).Relates (SameText cell) := by
  refine relates_state.bind fun present => ?_
  exact (relates_ofResult _).bind fun _ _ => rfl

variable (different : cell ≠ other)

include different

/-- A text is regenerated in the cell that is asked for it. -/
theorem sameText_text : (text catalogue other).Relates (SameText cell) := by
  intro state
  have read := text_run catalogue other state
  generalize (text catalogue other).run state = ended at read ⊢
  obtain ⟨ending, later⟩ := ended
  cases read with
  | stored found => rfl
  | formless missing bare => rfl
  | regenerated missing held made same =>
      rw [SameText, same.cells, State.get_setText_other _ _ different]
  | refused missing held failed same => rw [SameText, same.cells]

theorem sameText_invalidateText : (invalidateText other).Relates (SameText cell) := by
  refine relates_invalidateText other fun state => ?_
  rw [SameText, State.get_setText_other _ _ different]

theorem sameText_freeRepresentation :
    (freeRepresentation catalogue other).Relates (SameText cell) := by
  refine relates_state.bind fun present => ?_
  dsimp only
  split
  · exact relates_pure ()
  · exact (sameText_text catalogue different).bind fun _ => sameText_detach catalogue other

theorem sameText_dispose : (dispose catalogue other).Relates (SameText cell) := by
  refine (sameText_detach catalogue other).bind fun _ state => ?_
  show SameText cell state (state.setText other none)
  rw [SameText, State.get_setText_other _ _ different]

theorem sameText_callConvert (type : TypeId) :
    (callConvert catalogue type (text catalogue other)).Relates (SameText cell) := by
  refine Relates.bind (fun _ => rfl) fun view => ?_
  split
  · exact relates_ofResult _
  · exact (sameText_text catalogue different).bind fun _ => relates_ofResult _

theorem sameText_convert (registry : Ref Registry) (name : String) :
    (convert catalogue registry other name).Relates (SameText cell) := by
  refine relates_state.bind fun present => ?_
  split
  · exact relates_pure _
  · split
    · exact relates_pure _
    · refine (sameText_callConvert catalogue different _).bind fun _ => ?_
      split
      · exact relates_pure _
      · refine (sameText_make _).bind fun _ => ?_
        exact (sameText_install catalogue other _ _).bind fun _ => relates_pure _

omit different in
theorem sameText_ask {question : Question Data} (different : cell ≠ question.cell) :
    (question.ask catalogue).Relates (SameText cell) := by
  intro state
  have asked := question.ask_run catalogue state
  have read := sameText_text catalogue different state
  generalize (question.ask catalogue).run state = ended at asked ⊢
  obtain ⟨ending, later⟩ := ended
  cases asked with
  | hit kept => rfl
  | malformed unkept unformed => rfl
  | unread unkept ended => rwa [ended] at read
  | refused reads unresolved => rwa [reads.ended] at read
  | settled reads resolved installed =>
      rw [reads.ended] at read
      exact trans_of (SameText cell) read (installed.run.frame.2 cell)
  | lost reads installed =>
      rw [reads.ended] at read
      exact trans_of (SameText cell) read (installed.run.frame.2 cell)

omit different in
theorem sameText_settle {question : Question Data} (different : cell ≠ question.cell)
    (interpreter : InterpreterRef Data) :
    (question.ask catalogue >>= settle interpreter).Relates (SameText cell) := by
  refine (sameText_ask catalogue different).bind fun outcome => ?_
  exact relates_settle (fun _ _ _ => rfl) interpreter outcome

end text

section print

theorem samePrint_text (different : cell ≠ other) :
    (text catalogue other).Relates (SamePrint catalogue cell) := by
  intro state kept
  have prepares := prepares_text catalogue other state
  have objects := objects_text catalogue other state
  refine ⟨?_, sameText_text catalogue different state⟩
  have same : (State.resolution? _ catalogue cell) = state.resolution? catalogue cell :=
    State.resolution?_of_objects (prepares.representation cell) objects
  rwa [same]

/-- A cell that keeps an answer is printed without its text. -/
theorem samePrint_showWord (mayQuote : Bool) (printed : CellRef Data) :
    (showWord catalogue mayQuote printed).Relates (SamePrint catalogue cell) := by
  intro state kept
  unfold showWord
  rw [run_bind_ok (run_state state)]
  split
  next => exact ⟨kept, rfl⟩
  next bare =>
    have different : cell ≠ printed := by
      rintro rfl
      exact kept bare
    have printing := (samePrint_text catalogue different).bind fun found =>
      relates_pure (if mayQuote then ListElement.quote found else found)
    exact printing state kept

theorem samePrint_usageText (words : List (CellRef Data)) (options : UsageOptions Data) :
    (usageText catalogue words options).Relates (SamePrint catalogue cell) :=
  relates_shownUsage (samePrint_showWord catalogue) words options

theorem samePrint_reportUsage (interpreter : InterpreterRef Data) (count : Number)
    (words : List (CellRef Data)) (message : Option String) :
    (reportUsage catalogue interpreter count words message).Relates
      (SamePrint catalogue cell) :=
  relates_shownReport (samePrint_showWord catalogue) (fun _ _ _ kept => ⟨kept, rfl⟩) interpreter
    count words message

end print

theorem sameText_duplicate (source : CellRef Data) {state : State Data}
    (known : cell ≠ state.cells.next) :
    SameText cell state ((duplicate catalogue source).run state).2 := by
  have run := duplicate_run catalogue source state
  have cells (representation : Representation Data) :=
    cells_callDuplicate catalogue representation state
  generalize (duplicate catalogue source).run state = ended at run ⊢
  obtain ⟨ending, later⟩ := ended
  cases run with
  | bare held => exact State.text_addCell_other known
  | @refused representation _ _ held ended =>
      have same := cells representation
      rw [ended] at same
      exact congrArg (fun cells => (cells.get cell).text) same
  | @copied representation _ later held ended =>
      have same : later.cells = state.cells := by
        have same := cells representation
        rwa [ended] at same
      rw [← same] at known
      rw [SameText, ← same]
      exact State.text_addCell_other known

end Action

variable {catalogue : Catalogue Data} {cell : CellRef Data}

namespace State

/-- A cell with a resolution keeps the object of it, and the object keeps its content. -/
def KeepsObject (cell : CellRef Data) (first second : State Data) : Prop :=
  ∀ payload, first.Holds cell .resolution payload →
    second.Holds cell .resolution payload ∧ second.content payload = first.content payload

instance (cell : CellRef Data) : IsPreorder (State Data) (KeepsObject cell) where
  refl _ _ holds := ⟨holds, rfl⟩
  trans _ _ _ before after payload holds := by
    obtain ⟨still, content⟩ := before payload holds
    obtain ⟨last, same⟩ := after payload still
    exact ⟨last, same.trans content⟩

/-- The cell has its text, its representation and the content of its resolution still. -/
structure Untouched (cell : CellRef Data) (first second : State Data) : Prop where
  same : second.cells.get cell = first.cells.get cell
  content : ∀ payload, first.Holds cell .resolution payload →
    second.content payload = first.content payload

variable {first second : State Data}

theorem Untouched.holds (untouched : first.Untouched cell second) {type : TypeId}
    {payload : Payload Data} (holds : first.Holds cell type payload) :
    second.Holds cell type payload := by
  rw [Holds, untouched.same, holds]

theorem Untouched.trans {third : State Data} (before : first.Untouched cell second)
    (after : second.Untouched cell third) : first.Untouched cell third where
  same := after.same.trans before.same
  content payload holds :=
    (after.content payload (before.holds holds)).trans (before.content payload holds)

theorem KeepsObject.of_representation
    (same : (second.cells.get cell).representation = (first.cells.get cell).representation)
    (content : ∀ payload, first.Holds cell .resolution payload →
      second.content payload = first.content payload) : first.KeepsObject cell second := by
  intro payload holds
  exact ⟨by rw [Holds, same, holds], content payload holds⟩

theorem KeepsObject.of_frame (frame : first.Frame second) (owned : first.Owned)
    (same : (second.cells.get cell).representation = (first.cells.get cell).representation) :
    first.KeepsObject cell second := by
  apply KeepsObject.of_representation same
  intro payload holds
  obtain ⟨reference, _, rfl, old, _, _⟩ := owned.object holds
  exact frame.same holds old

theorem KeepsObject.of_same (same : first.SameMemory second) : first.KeepsObject cell second :=
  .of_representation (by rw [same.cells]) fun payload _ => same.content payload

theorem KeepsObject.setRepresentation (state : State Data) {target : CellRef Data}
    (different : cell ≠ target) (representation : Option (Representation Data)) :
    state.KeepsObject cell (state.setRepresentation target representation) := by
  apply KeepsObject.of_representation
  · rw [get_setRepresentation_other _ _ different]
  · exact fun payload _ => rfl

theorem KeepsObject.addCell (state : State Data) (different : cell ≠ state.cells.next)
    (made : Cell Data) : state.KeepsObject cell (state.addCell made) := by
  apply KeepsObject.of_representation
  · rw [get_addCell_other _ different]
  · exact fun payload _ => rfl

theorem KeepsObject.addObject {state : State Data} (owned : state.Owned)
    (content : Content Data) : state.KeepsObject cell (state.addObject content) := by
  refine .of_representation rfl fun payload holds => ?_
  obtain ⟨reference, _, rfl, old, _, _⟩ := owned.object holds
  exact get_addObject_old state old content

/-- A change keeps the resolutions of all cells but the one that it is about. -/
theorem Commit.keepsObject {operation : Operation Data} {state committed : State Data}
    {mark : Mark Data} (owned : state.Owned)
    (safe : state.Overwritten catalogue operation committed → state.KeepsResolutions committed)
    (commit : Commit catalogue operation state mark committed)
    (untouched : mark.target? ≠ some cell) : state.KeepsObject cell committed := by
  cases commit with
  | nothing => exact refl_of (KeepsObject cell) state
  | tableAdded table => exact .of_representation rfl fun _ _ => rfl
  | tableChanged changes => exact .of_representation rfl fun _ _ => rfl
  | textDropped drops held => exact .of_representation (representation_setText ..) fun _ _ => rfl
  | @lost target representation fault held failed =>
      intro payload holds
      have different : cell ≠ target := by
        rintro rfl
        exact custom_of_freeFails held failed payload holds
      exact KeepsObject.setRepresentation state different none payload holds
  | bare bare => exact refl_of (KeepsObject cell) state
  | freed stored => exact .setRepresentation state (Mark.ne_target untouched rfl) none
  | disposed target =>
      refine .of_representation ?_ fun _ _ => rfl
      rw [representation_setText, get_setRepresentation_other _ _ (Mark.ne_target untouched rfl)]
  | replaced installs target number payload =>
      exact .setRepresentation state (Mark.ne_target untouched rfl) _
  | assigned installs able held content =>
      have keeps := safe ⟨installs, _, _, _, content, able, held, rfl⟩
      exact .of_representation (by rw [cells_setObject]) (keeps cell)
  | @answered target exactOnly resolution resolves =>
      have made : state.KeepsObject cell (state.addObject (.resolution resolution)) :=
        .addObject owned _
      exact trans_of (KeepsObject cell) made
        (.setRepresentation _ (Mark.ne_target untouched rfl) _)
  | @overwritten target exactOnly resolution object accepted resolves =>
      refine .of_representation (by rw [cells_setObject]) fun payload holds => ?_
      obtain ⟨reference, _, rfl, _, _, _⟩ := owned.object holds
      refine get_setObject_other state ?_ (.resolution resolution)
      rintro rfl
      exact Mark.ne_target untouched rfl (owned.single holds (Action.held_of_payload? accepted))
  | born text => exact .addCell state (Mark.ne_target untouched rfl) _
  | bornCustom installs number payload => exact .addCell state (Mark.ne_target untouched rfl) _
  | copiedBare held => exact .addCell state (Mark.ne_target untouched rfl) _
  | copiedCustom held payload => exact .addCell state (Mark.ne_target untouched rfl) _
  | @copiedResolution source old held =>
      let grown := state.addObject (state.content old)
      have made : state.KeepsObject cell grown := .addObject owned _
      exact trans_of (KeepsObject cell) made
        (.addCell grown (Mark.ne_target untouched rfl) _)

/-- A cell that is made or gets a copy is the next one. -/
theorem Commit.next_of_mark {operation : Operation Data} {state committed : State Data}
    {mark : Mark Data} (commit : Commit catalogue operation state mark committed)
    (born : mark = .made cell ∨ ∃ source, mark = .copied source cell) :
    cell = state.cells.next := by
  rcases born with rfl | ⟨source, rfl⟩
  · cases commit <;> rfl
  · cases commit <;> rfl

end State

theorem Question.eq_of_target {question : Question Data} {ending : Except Fault (Outcome Number)}
    (targeted : (question.mark ending).target? = some cell) : question.cell = cell := by
  unfold mark at targeted
  split at targeted
  next index effort =>
    split at targeted
    next => cases targeted
    next => exact Option.some.inj targeted
  next => cases targeted

theorem Operation.cell?_of_question? {operation : Operation Data} {state : State Data}
    {question : Question Data} (asks : operation.question? state = some question) :
    operation.cell? = some question.cell := by
  cases operation with
  | lookup asked =>
      cases asks
      rfl
  | resolve interpreter cell table stride label exact =>
      cases asks
      rfl
  | _ => cases asks

theorem Operation.addressed_of_target {operation : Operation Data}
    {ending : Except Fault (Answer Data)}
    (targeted : (operation.mark ending).target? = some cell) :
    operation.cell? = some cell ∨
      (operation.mark ending = .made cell ∨
        ∃ source, operation.mark ending = .copied source cell) := by
  unfold mark at targeted ⊢
  split at targeted
  next => cases targeted; exact .inr (.inl rfl)
  next => cases targeted; exact .inr (.inl rfl)
  next => exact .inl targeted
  next => exact .inl targeted
  next => cases targeted; exact .inr (.inr ⟨_, rfl⟩)
  next => exact .inl targeted
  next =>
    split at targeted
    next => cases targeted
    next => exact .inl targeted
  next => cases targeted

/-- A step works on the cell that its mark is about, or makes it. -/
theorem Step.addressed_of_target {step : Step Data}
    (targeted : (step.mark catalogue).target? = some cell) :
    step.operation.cell? = some cell ∨
      (step.mark catalogue = .made cell ∨ ∃ source, step.mark catalogue = .copied source cell) := by
  unfold mark at targeted ⊢
  cases asks : step.operation.question? step.before with
  | some question =>
      simp only [asks] at targeted
      rw [← question.eq_of_target targeted]
      exact .inl (Operation.cell?_of_question? asks)
  | none =>
      simp only [asks] at targeted ⊢
      exact Operation.addressed_of_target targeted

namespace Step

variable {step : Step Data}

/-- A step keeps the resolution of every cell that its mark is not about. -/
theorem keepsObject (honest : step.Honest catalogue) (owned : step.before.Owned)
    (untargeted : (step.mark catalogue).target? ≠ some cell) :
    step.before.KeepsObject cell (step.after catalogue) := by
  obtain ⟨prepared, committed, prepares, commit, same⟩ :=
    (step.effect catalogue honest.custom).exists_commit
  have frame := State.Frame.of_prepared prepares
  have first : step.before.KeepsObject cell prepared :=
    .of_frame frame owned (prepares.representation cell)
  have change : prepared.KeepsObject cell committed :=
    commit.keepsObject (frame.owned owned) (honest.safeWrites owned prepares same) untargeted
  exact trans_of (State.KeepsObject cell) first
    (trans_of (State.KeepsObject cell) change (.of_same same))

/-- No step makes a cell that was made before. -/
theorem unborn (custom : step.operation.InstallsCustom)
    (known : step.before.cells.has cell = true) :
    ¬ (step.mark catalogue = .made cell ∨ ∃ source, step.mark catalogue = .copied source cell) := by
  intro born
  obtain ⟨prepared, committed, prepares, commit, same⟩ :=
    (step.effect catalogue custom).exists_commit
  have next := commit.next_of_mark born
  rw [Store.next, prepares.cellCount] at next
  exact Store.ne_next_of_has known next

/-- Only work on a cell changes its text, as long as the cell keeps an answer. -/
theorem sameText (known : step.before.cells.has cell = true)
    (kept : step.before.resolution? catalogue cell ≠ none)
    (elsewhere : ¬ step.operation.Addresses cell) :
    step.before.SameText cell (step.after catalogue) := by
  obtain ⟨state, operation⟩ := step
  have next : cell ≠ state.cells.next := Store.ne_next_of_has known
  have other {target : CellRef Data} (works : operation.cell? = some target) :
      cell ≠ target := by
    rintro rfl
    exact elsewhere (.inl works)
  simp only [after] at kept ⊢
  cases operation with
  | addTable table => rfl
  | changeTable reference table => rfl
  | ofText text => exact State.text_addCell_other next
  | ofPayload type made =>
      cases made with
      | object content => exact State.text_addCell_other next
      | existing payload => exact State.text_addCell_other next
  | readText target =>
      have different : cell ≠ target := by
        rintro rfl
        exact elsewhere (.inr (.inl rfl))
      exact (Action.sameText_text catalogue different).map _ state
  | invalidateText target =>
      have different : cell ≠ target := by
        rintro rfl
        exact elsewhere (.inr (.inr rfl))
      exact (Action.sameText_invalidateText different).map _ state
  | install target type made =>
      exact (Action.sameText_installMade catalogue target type made).map _ state
  | freeRepresentation target =>
      exact (Action.sameText_freeRepresentation catalogue (other rfl)).map _ state
  | duplicate source =>
      rw [Operation.perform, Action.run_map_after]
      exact Action.sameText_duplicate catalogue source next
  | dispose target => exact (Action.sameText_dispose catalogue (other rfl)).map _ state
  | lookup question => exact (Action.sameText_ask catalogue (other rfl)).map _ state
  | addRegistry registry => rfl
  | register registry type => exact (Action.sameText_register catalogue registry type).map _ state
  | convert registry target name =>
      exact (Action.sameText_convert catalogue (other rfl) registry name).map _ state
  | showWord mayQuote printed =>
      exact ((Action.samePrint_showWord catalogue mayQuote printed).map _ state kept).2
  | usageText words options =>
      exact ((Action.samePrint_usageText catalogue words options).map _ state kept).2
  | addInterpreter configuration => rfl
  | writeResult interpreter result => rfl
  | setAlternate interpreter alternate => rfl
  | setDispatch interpreter dispatch => rfl
  | resolve interpreter target table stride label exact =>
      have different : cell ≠ target := other rfl
      rw [Operation.perform, Action.run_map_after, Action.run_resolve]
      exact Action.sameText_settle catalogue different interpreter state
  | reportUsage interpreter count words message =>
      exact ((Action.samePrint_reportUsage catalogue interpreter count words message).map _ state
        kept).2
  | configureLedger limit enabled => rfl
  | logEvent event => rfl
  | clearLedger => rfl

/-- Work elsewhere leaves a cell with a resolution untouched. -/
theorem untouched (honest : step.Honest catalogue) (owned : step.before.Owned)
    (known : step.before.cells.has cell = true)
    {payload : Payload Data} (holds : step.before.Holds cell .resolution payload)
    (elsewhere : ¬ step.operation.Addresses cell) :
    step.before.Untouched cell (step.after catalogue) := by
  have untargeted : (step.mark catalogue).target? ≠ some cell := by
    intro targeted
    rcases addressed_of_target targeted with works | born
    · exact elsewhere (.inl works)
    · exact unborn honest.custom known born
  have keeps := keepsObject honest owned untargeted
  have kept : step.before.resolution? catalogue cell ≠ none := by
    obtain ⟨reference, resolution, rfl, _, content, _⟩ := owned.object holds
    rw [State.resolution?_of_holds holds, State.content, content]
    simp [Content.resolution?]
  have representation := (keeps payload holds).1.trans holds.symm
  refine ⟨Cell.eq_of_parts (sameText known kept elsewhere) representation, ?_⟩
  exact fun other holds => (keeps other holds).2

end Step

/-- Work elsewhere, however long, leaves a cell with a resolution untouched. -/
theorem Throughout.untouched {past later : List (Operation Data)}
    (honest : Throughout catalogue (Step.Honest catalogue) (later ++ past))
    (known : (session catalogue past).cells.has cell = true) {payload : Payload Data}
    (holds : (session catalogue past).Holds cell .resolution payload)
    (elsewhere : ∀ operation ∈ later, ¬ operation.Addresses cell) :
    (session catalogue (later ++ past)).cells.has cell = true ∧
      (session catalogue past).Untouched cell (session catalogue (later ++ past)) := by
  induction later with
  | nil => exact ⟨known, rfl, fun _ _ => rfl⟩
  | cons operation earlier inductionHypothesis =>
      obtain ⟨latest, before⟩ := honest
      have remembered := Throughout.remembers before
      obtain ⟨present, untouched⟩ := inductionHypothesis before fun other member =>
        elsewhere other (List.mem_cons_of_mem _ member)
      let step : Step Data := ⟨session catalogue (earlier ++ past), operation⟩
      have unmoved : step.before.Untouched cell (step.after catalogue) :=
        Step.untouched latest remembered.owned present (untouched.holds holds)
          (elsewhere operation List.mem_cons_self)
      exact ⟨Step.has_after present, untouched.trans unmoved⟩

end CommandWords
