/-
This file shows that kept answers are invisible: a lookup that takes abbreviations answers as if
the cell were a new one with the same text.
-/

import CommandWords.Proofs.Lookup.CachedAnswer
import CommandWords.Proofs.Lookup.Verdict

namespace CommandWords

variable {Data : Type} {catalogue : Catalogue Data}

/-- No custom type fails to free a payload or to regenerate a text. -/
structure Catalogue.Calm (catalogue : Catalogue Data) : Prop where
  free : ∀ number view argument, (catalogue.custom number).free view argument = .ok ()
  regenerate : ∀ number view argument,
    ∃ text, (catalogue.custom number).regenerate view argument = .ok text

theorem Catalogue.Calm.not_freeFails (calm : catalogue.Calm) {state : State Data}
    {representation : Representation Data} {fault : Fault} :
    ¬ Action.FreeFails catalogue state representation fault := by
  rintro ⟨calls, failed⟩
  obtain ⟨type, payload⟩ := representation
  cases type with
  | resolution => cases failed
  | custom number =>
      have freed := calm.free number ⟨state.tables, calls⟩ (state.argument payload)
      cases freed.symm.trans failed

namespace State

/-- Every cell that is in use has a text or something that a text can come from. -/
def Formed (state : State Data) (used : CellRef Data → Bool) : Prop :=
  ∀ cell, used cell = true →
    (state.cells.get cell).text ≠ none ∨ (state.cells.get cell).representation ≠ none

theorem Formed.of_prepared {before prepared : State Data} {used : CellRef Data → Bool}
    (formed : before.Formed used) (prepares : before.Prepared catalogue prepared) :
    prepared.Formed used := by
  intro cell inUse
  rw [prepares.representation]
  rcases formed cell inUse with shown | held
  · obtain ⟨text, stored⟩ := Option.ne_none_iff_exists'.mp shown
    refine .inl ?_
    rw [prepares.text_stored stored]
    simp
  · exact .inr held

/-- A new cell that has a form where its mark puts it into use. -/
theorem Formed.addCell {state : State Data} {used : CellRef Data → Bool} {cell : Cell Data}
    (formed : state.Formed used) {fresh : Bool}
    (here : fresh = true → cell.text ≠ none ∨ cell.representation ≠ none) :
    (state.addCell cell).Formed (Function.update used state.cells.next fresh) := by
  intro other inUse
  by_cases same : other = state.cells.next
  · subst same
    rw [Function.update_self] at inUse
    rw [get_addCell_next]
    exact here inUse
  · rw [Function.update_of_ne same] at inUse
    rw [get_addCell_other _ same]
    exact formed other inUse

/-- A cell whose representation is written keeps its form through its text or the new payload. -/
theorem Formed.setRepresentation {state : State Data} {used : CellRef Data → Bool}
    (formed : state.Formed used) {cell : CellRef Data}
    {representation : Option (Representation Data)}
    (here : (state.cells.get cell).text ≠ none ∨ representation ≠ none) :
    (state.setRepresentation cell representation).Formed used := by
  intro other inUse
  by_cases same : other = cell
  · subst same
    rw [get_setRepresentation]
    exact here
  · rw [get_setRepresentation_other _ _ same]
    exact formed other inUse

theorem Commit.formed {operation : Operation Data} {state committed : State Data}
    {mark : Mark Data} {used : CellRef Data → Bool} (calm : catalogue.Calm)
    (formed : state.Formed used)
    (commit : Commit catalogue operation state mark committed) :
    committed.Formed (mark.carryUse used) := by
  cases commit with
  | nothing => exact formed
  | tableAdded table => exact formed
  | tableChanged changes => exact formed
  | @textDropped cell representation drops held =>
      intro other inUse
      by_cases same : other = cell
      · subst same
        rw [get_setText, held]
        exact .inr (by simp)
      · rw [get_setText_other _ _ same]
        exact formed other inUse
  | lost held failed => exact absurd failed calm.not_freeFails
  | bare bare => exact formed
  | freed stored => exact formed.setRepresentation (.inl (by simp [stored]))
  | disposed cell =>
      intro other inUse
      by_cases same : other = cell
      · rw [same, Mark.carryUse, Function.update_self] at inUse
        cases inUse
      · rw [Mark.carryUse, Function.update_of_ne same] at inUse
        rw [get_setText_other _ _ same, get_setRepresentation_other _ _ same]
        exact formed other inUse
  | replaced installs cell number payload => exact formed.setRepresentation (.inr (by simp))
  | assigned installs able held content =>
      intro other inUse
      rw [cells_setObject]
      exact formed other inUse
  | @answered cell exactOnly resolution resolves =>
      have before : (state.addObject (.resolution resolution)).Formed used := formed
      exact before.setRepresentation (.inr (by simp))
  | overwritten accepted resolves =>
      intro other inUse
      rw [cells_setObject]
      exact formed other inUse
  | born text => exact formed.addCell fun _ => .inl (by simp)
  | bornCustom installs number payload => exact formed.addCell fun _ => .inr (by simp)
  | @copiedBare source held =>
      refine formed.addCell fun inUse => ?_
      rcases formed source inUse with shown | present
      · exact .inl shown
      · exact absurd held present
  | copiedCustom held payload => exact formed.addCell fun _ => .inr (by simp)
  | @copiedResolution source old held =>
      have before : (state.addObject (state.content old)).Formed used := formed
      exact before.addCell fun _ => .inr (by simp)

end State

/-- Every cell that a run left in use still has a form. -/
theorem Throughout.formed (calm : catalogue.Calm) {operations : List (Operation Data)}
    (honest : Throughout catalogue (Step.Honest catalogue) operations) :
    (session catalogue operations).Formed (inUse catalogue operations) := by
  induction operations with
  | nil =>
      intro cell used
      cases used
  | cons operation earlier inductionHypothesis =>
      obtain ⟨latest, before⟩ := honest
      have effect := Step.effect catalogue ⟨session catalogue earlier, operation⟩ latest.custom
      obtain ⟨prepared, committed, prepares, commit, same⟩ := effect.exists_commit
      have changed := commit.formed calm ((inductionHypothesis before).of_prepared prepares)
      intro cell used
      have here := changed cell used
      rwa [← same.cells] at here

/-- A cell that has a form can show its text. -/
theorem State.Sound.text_ok {state : State Data} (sound : state.Sound catalogue)
    (owned : state.Owned) (calm : catalogue.Calm) {cell : CellRef Data}
    (formed : (state.cells.get cell).text ≠ none ∨
      (state.cells.get cell).representation ≠ none) :
    ∃ text, ((Action.text catalogue cell).run state).1 = .ok text := by
  cases kept : state.resolution? catalogue cell with
  | some resolution =>
      obtain ⟨keywords, position, keyword, stands, _⟩ := sound.justified kept
      exact ⟨_, run_text_of_kept kept stands.expand⟩
  | none =>
      have run := Action.text_run catalogue cell state
      generalize (Action.text catalogue cell).run state = ended at run ⊢
      obtain ⟨ending, later⟩ := ended
      cases run with
      | stored found => exact ⟨_, rfl⟩
      | regenerated missing held made same => exact ⟨_, rfl⟩
      | formless missing bare =>
          rcases formed with shown | present
          · exact absurd missing shown
          · exact absurd bare present
      | @refused representation fault later missing held failed same =>
          obtain ⟨type, payload⟩ := representation
          obtain ⟨calls, failed⟩ := failed
          cases type with
          | custom number =>
              obtain ⟨text, made⟩ := calm.regenerate number ⟨state.tables, calls⟩
                (state.argument payload)
              cases made.symm.trans failed
          | resolution =>
              obtain ⟨reference, resolution, rfl, _, content, _⟩ := owned.object held
              have answer : state.resolution? catalogue cell = some resolution := by
                rw [resolution?_of_holds held, State.content, content, Content.resolution?]
              cases kept.symm.trans answer

namespace Question

/-- A lookup that takes abbreviations gives the same index or the same failure as the lookup on a
new cell with the text of the cell, and the empty text always fails. Both the text and the lookup
have a result for every cell in use, as long as no custom type fails. -/
theorem ask_eq_askNew {operations : List (Operation Data)}
    (stable : Throughout catalogue (Step.Stable catalogue) operations)
    (cell : CellRef Data) (table : Ref Table) (stride : Number) (label : String) :
    let state := session catalogue operations
    let question : Question Data := ⟨cell, table, stride, label, false⟩
    (∀ text outcome, ((Action.text catalogue cell).run state).1 = .ok text →
      ((question.ask catalogue).run state).1 = .ok outcome →
        ∃ fresh, ((question.askNew catalogue text).run state).1 = .ok fresh ∧
          outcome.toExcept = fresh.toExcept ∧ (text = "" → outcome.isFail = true)) ∧
    (catalogue.Calm → inUse catalogue operations cell = true →
      ∃ text outcome, ((Action.text catalogue cell).run state).1 = .ok text ∧
        ((question.ask catalogue).run state).1 = .ok outcome) := by
  intro state question
  obtain ⟨remembered, sound⟩ := stable.sound
  have asked := question.ask_run catalogue state
  constructor
  · intro text outcome read ended
    obtain ⟨fresh, answered, verdict⟩ : ∃ fresh,
        ((question.askNew catalogue text).run state).1 = .ok fresh ∧
          fresh.toExcept = question.verdict state.tables text :=
      question.askNew_verdict state text
    rw [ended] at asked
    have same : outcome.toExcept = question.verdict state.tables text := by
      cases kept : state.keptAnswer? catalogue cell table stride with
      | none => exact asked.verdict_of_unkept kept read
      | some index =>
          have hit : (question.ask catalogue).run state = _ := ask_of_kept kept
          rw [hit] at ended
          cases ended
          have answer := remembered.owned.keptAnswer?_iff.mp kept
          have answered : question.verdict state.tables text = .ok index :=
            verdict_of_kept sound answer rfl read
          rw [answered]
          rfl
    refine ⟨fresh, answered, same.trans verdict.symm, ?_⟩
    rintro rfl
    obtain ⟨failure, fails⟩ := question.verdict_empty state.tables
    rw [fails] at same
    cases outcome with
    | done index effort => cases same
    | fail failure effort => rfl
  · intro calm used
    have honest := stable.mono fun step holds => holds.toHonest
    obtain ⟨text, read⟩ :=
      sound.text_ok remembered.owned calm (honest.formed calm cell used)
    obtain ⟨outcome, ended⟩ := asked.ok_of_text read fun _ => calm.not_freeFails
    exact ⟨text, outcome, read, ended⟩

/-- The kept answer to an abbreviation is the answer to its text. -/
theorem ask_eq_askNew_abbreviation :
    let question : Question Unit := ⟨⟨0⟩, ⟨0⟩, 1, "option", false⟩
    let operations : List (Operation Unit) :=
      [.lookup question, .ofText "sta", .addTable (.ofKeywords ["start", "stop"])]
    let state := session .inert operations
    Throughout .inert (Step.Stable .inert) operations ∧ Catalogue.inert.Calm ∧
      inUse .inert operations question.cell = true ∧
        (∃ fresh, ((question.askNew .inert "sta").run state).1 = .ok fresh ∧
          fresh.toExcept = .ok 0) ∧
        ∃ text outcome, ((Action.text .inert question.cell).run state).1 = .ok text ∧
          ((question.ask .inert).run state).1 = .ok outcome := by
  intro question operations state
  have plain : ∀ operation ∈ operations, operation.Plain := by
    simp [operations, Operation.Plain]
  have keeps : ∀ operation ∈ operations, operation.KeepsTables := by
    simp [operations, Operation.KeepsTables]
  have stable : Throughout .inert (Step.Stable .inert) operations :=
    Throughout.stable_of_plain plain keeps
  have calm : Catalogue.inert.Calm := ⟨fun _ _ _ => rfl, fun number _ _ => ⟨toString number, rfl⟩⟩
  have used : inUse .inert operations question.cell = true := by decide +kernel
  have stored : (state.cells.get question.cell).text = some "sta" := by decide +kernel
  have kept : state.keptAnswer? .inert question.cell question.table question.stride = some 0 := by
    decide +kernel
  have read := Action.run_text_of_stored .inert stored
  have answered := ask_of_kept kept
  obtain ⟨same, results⟩ := ask_eq_askNew stable question.cell question.table question.stride
    question.label
  obtain ⟨fresh, ended, verdict, _⟩ := same "sta" (.done 0 noEffort) (by rw [read])
    (congrArg Prod.fst answered)
  exact ⟨stable, calm, used, ⟨fresh, ended, verdict.symm⟩, results calm used⟩

end Question

end CommandWords
