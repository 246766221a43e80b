/-
This file traces every kept answer back over one change: to the same cell, to a lookup or to the
source of a copy.
-/

import CommandWords.Proofs.Session.Ownership

namespace CommandWords

variable {Data : Type} {catalogue : Catalogue Data} {operation : Operation Data}

namespace State

/-- Where the answer of a cell comes from, together with the text that the cell has with it. -/
inductive Provenance (catalogue : Catalogue Data) (operation : Operation Data)
    (before : State Data) (cell : CellRef Data) (resolution : Resolution)
    (text : Option String) : Mark Data → Prop
  | kept {mark : Mark Data} (untouched : mark.target? ≠ some cell)
      (answer : before.resolution? catalogue cell = some resolution)
      (shown : text = (before.cells.get cell).text ∨
        text = none ∧ operation = .invalidateText cell) :
      Provenance catalogue operation before cell resolution text mark
  | answered {exactOnly : Bool} (resolves : before.Resolves cell exactOnly resolution)
      (shown : text = (before.cells.get cell).text) :
      Provenance catalogue operation before cell resolution text (.answered cell resolution)
  | copied {source : CellRef Data}
      (answer : before.resolution? catalogue source = some resolution)
      (shown : text = (before.cells.get source).text) :
      Provenance catalogue operation before cell resolution text (.copied source cell)

variable {state committed : State Data} {mark : Mark Data} {cell : CellRef Data}

theorem text_addCell_other {state : State Data} (different : cell ≠ state.cells.next)
    {made : Cell Data} :
    ((state.addCell made).cells.get cell).text = (state.cells.get cell).text := by
  rw [get_addCell_other _ different]

/-- A change that is not about a cell keeps its text or drops it on demand. -/
theorem Commit.text_other (commit : Commit catalogue operation state mark committed)
    (untouched : mark.target? ≠ some cell) :
    (committed.cells.get cell).text = (state.cells.get cell).text ∨
      (committed.cells.get cell).text = none ∧ operation = .invalidateText cell := by
  cases commit with
  | nothing => exact .inl rfl
  | tableAdded table => exact .inl rfl
  | tableChanged changes => exact .inl rfl
  | @textDropped target _ drops held =>
      by_cases same : cell = target
      · subst same
        exact .inr ⟨by rw [get_setText], drops⟩
      · exact .inl (by rw [get_setText_other _ _ same])
  | lost held failed => exact .inl (text_setRepresentation ..)
  | bare bare => exact .inl rfl
  | freed stored => exact .inl (text_setRepresentation ..)
  | disposed target =>
      have different := Mark.ne_target untouched rfl
      exact .inl (by rw [get_setText_other _ _ different, text_setRepresentation])
  | replaced installs target number payload => exact .inl (text_setRepresentation ..)
  | assigned installs able held content => exact .inl (by rw [cells_setObject])
  | answered resolves => exact .inl (text_setRepresentation ..)
  | overwritten accepted resolves => exact .inl (by rw [cells_setObject])
  | born text =>
      exact .inl (text_addCell_other (Mark.ne_target untouched rfl))
  | bornCustom installs number payload =>
      exact .inl (text_addCell_other (Mark.ne_target untouched rfl))
  | copiedBare held =>
      exact .inl (text_addCell_other (Mark.ne_target untouched rfl))
  | copiedCustom held payload =>
      exact .inl (text_addCell_other (Mark.ne_target untouched rfl))
  | copiedResolution held =>
      exact .inl (text_addCell_other (Mark.ne_target untouched rfl))

theorem Commit.text_answered {resolution : Resolution}
    (commit : Commit catalogue operation state (.answered cell resolution) committed) :
    (∃ exactOnly, state.Resolves cell exactOnly resolution) ∧
      (committed.cells.get cell).text = (state.cells.get cell).text := by
  cases commit with
  | answered resolves => exact ⟨⟨_, resolves⟩, text_setRepresentation ..⟩
  | overwritten accepted resolves => exact ⟨⟨_, resolves⟩, by rw [cells_setObject]⟩

theorem Commit.text_copied {source copy : CellRef Data}
    (commit : Commit catalogue operation state (.copied source copy) committed) :
    (committed.cells.get copy).text = (state.cells.get source).text := by
  cases commit with
  | copiedBare held => rw [get_addCell_next]
  | copiedCustom held payload => rw [get_addCell_next]
  | @copiedResolution _ old held =>
      have added := (state.addObject (state.content old)).get_addCell_next
        ⟨(state.cells.get source).text, some ⟨.resolution, .object state.objects.next⟩⟩
      have shown := congrArg Cell.text added
      exact shown

theorem Commit.provenance (commit : Commit catalogue operation state mark committed)
    (marked : Marked catalogue state mark committed) {resolution : Resolution}
    (kept : committed.resolution? catalogue cell = some resolution) :
    Provenance catalogue operation state cell resolution (committed.cells.get cell).text mark := by
  rw [marked.answers] at kept
  by_cases touched : mark.target? = some cell
  · cases mark with
    | nothing => cases touched
    | made target =>
        cases touched
        rw [Mark.carryAnswers, Function.update_self] at kept
        cases kept
    | reset target =>
        cases touched
        rw [Mark.carryAnswers, Function.update_self] at kept
        cases kept
    | disposed target =>
        cases touched
        rw [Mark.carryAnswers, Function.update_self] at kept
        cases kept
    | answered target found =>
        cases touched
        rw [Mark.carryAnswers, Function.update_self] at kept
        cases kept
        obtain ⟨⟨exactOnly, resolves⟩, shown⟩ := commit.text_answered
        exact .answered resolves shown
    | copied source copy =>
        cases touched
        rw [Mark.carryAnswers, Function.update_self] at kept
        exact .copied kept commit.text_copied
  · rw [Mark.carryAnswers_other touched] at kept
    exact .kept touched kept (commit.text_other touched)

/-- The text that a kept answer gives is its full keyword. -/
theorem regenerate_of_kept {representation : Representation Data} {resolution : Resolution}
    (held : (state.cells.get cell).representation = some representation)
    (kept : state.resolution? catalogue cell = some resolution) (calls : List (HookCall Data)) :
    (catalogue.describe representation.type).regenerate ⟨state.tables, calls⟩
      (state.argument representation.payload) = resolution.expand state.tables := by
  obtain ⟨payload, holds, content⟩ := holds_of_resolution? kept
  cases held.symm.trans holds
  simp only [Catalogue.describe, resolutionType, ResolutionType.regenerate, argument, content,
    Content.resolution?]

theorem expand_of_regenerates {representation : Representation Data} {resolution : Resolution}
    {text : String} (held : (state.cells.get cell).representation = some representation)
    (kept : state.resolution? catalogue cell = some resolution)
    (regenerated : state.Regenerates catalogue representation text) :
    resolution.expand state.tables = .ok text := by
  obtain ⟨calls, made⟩ := regenerated
  exact (regenerate_of_kept held kept calls).symm.trans made

/-- A cell with an answer shows its own text, or the full keyword if it has none. -/
theorem run_text_of_kept {resolution : Resolution} {keyword : String}
    (kept : state.resolution? catalogue cell = some resolution)
    (expanded : resolution.expand state.tables = .ok keyword) :
    ((Action.text catalogue cell).run state).1 =
      .ok ((state.cells.get cell).text.getD keyword) := by
  have run := Action.text_run catalogue cell state
  generalize (Action.text catalogue cell).run state = ended at run ⊢
  obtain ⟨ending, later⟩ := ended
  cases run with
  | stored found => rw [found, Option.getD_some]
  | regenerated missing held made same =>
      cases expanded.symm.trans (expand_of_regenerates held kept made)
      rw [missing, Option.getD_none]
  | formless missing bare =>
      rw [resolution?_of_bare (not_holds_of_bare bare)] at kept
      cases kept
  | refused missing held failed same =>
      obtain ⟨calls, failed⟩ := failed
      have regenerated := regenerate_of_kept held kept calls
      cases expanded.symm.trans (regenerated.symm.trans failed)

/-- While an operation prepares, a text stays or is regenerated from the answer of its cell. -/
theorem Prepared.text_of_kept {before prepared : State Data}
    (prepares : before.Prepared catalogue prepared) (owned : before.Owned)
    {resolution : Resolution} (kept : before.resolution? catalogue cell = some resolution) :
    (prepared.cells.get cell).text = (before.cells.get cell).text ∨
      (before.cells.get cell).text = none ∧
        ∃ keyword, resolution.expand before.tables = .ok keyword ∧
          (prepared.cells.get cell).text = some keyword := by
  induction prepares with
  | start => exact .inl rfl
  | aside earlier same inductionHypothesis => rwa [same.cells]
  | object earlier content inductionHypothesis => exact inductionHypothesis
  | @text middle earlier changed representation text missing held regenerated
      inductionHypothesis =>
      by_cases same : cell = changed
      · subst same
        have answer : middle.resolution? catalogue cell = some resolution := by
          rw [(Frame.of_prepared earlier).resolution? owned (earlier.representation cell), kept]
        have expanded := expand_of_regenerates held answer regenerated
        rw [earlier.tables] at expanded
        rcases inductionHypothesis with unchanged | ⟨_, keyword, _, stored⟩
        · refine .inr ⟨unchanged ▸ missing, text, expanded, by rw [get_setText]⟩
        · rw [missing] at stored
          cases stored
      · rwa [get_setText_other _ _ same]

end State

end CommandWords
