/-
This file shows that cells hold nothing but resolutions as long as no operation installs a payload
of a custom type.
-/

import CommandWords.Proofs.Session.LastAnswer

namespace CommandWords

variable {Data : Type} {catalogue : Catalogue Data}

/-- No cell holds a payload of a custom type. -/
def State.NoCustom (state : State Data) : Prop :=
  ∀ cell number payload, ¬ state.Holds cell (.custom number) payload

theorem State.NoCustom.of_representation {first second : State Data} (absent : first.NoCustom)
    (same : ∀ cell, (second.cells.get cell).representation =
      (first.cells.get cell).representation) :
    second.NoCustom := by
  intro cell number payload holds
  rw [Holds, same] at holds
  exact absent cell number payload holds

/-- Only one cell changes, and it gets no payload of a custom type. -/
theorem State.NoCustom.of_others {first second : State Data} (absent : first.NoCustom)
    {cell : CellRef Data}
    (others : ∀ other, other ≠ cell → second.cells.get other = first.cells.get other)
    (here : ∀ number payload, ¬ second.Holds cell (.custom number) payload) :
    second.NoCustom := by
  intro other number payload holds
  by_cases same : other = cell
  · rw [same] at holds
    exact here number payload holds
  · rw [Holds, others other same] at holds
    exact absent other number payload holds

theorem State.NoCustom.setRepresentation {state : State Data} (absent : state.NoCustom)
    (cell : CellRef Data) {representation : Option (Representation Data)}
    (plain : ∀ number payload, representation ≠ some ⟨.custom number, payload⟩) :
    (state.setRepresentation cell representation).NoCustom := by
  apply absent.of_others
  · intro other different
    exact state.get_setRepresentation_other cell different representation
  · intro number payload holds
    rw [Holds, get_setRepresentation] at holds
    exact plain number payload holds

theorem State.NoCustom.addCell {state : State Data} (absent : state.NoCustom) {cell : Cell Data}
    (plain : ∀ number payload, cell.representation ≠ some ⟨.custom number, payload⟩) :
    (state.addCell cell).NoCustom := by
  apply absent.of_others
  · intro other different
    exact state.get_addCell_other different cell
  · intro number payload holds
    rw [Holds, get_addCell_next] at holds
    exact plain number payload holds

theorem State.Commit.noCustom {operation : Operation Data} {state committed : State Data}
    {mark : Mark Data} (plain : operation.Plain) (absent : state.NoCustom)
    (commit : State.Commit catalogue operation state mark committed) : committed.NoCustom := by
  cases commit with
  | nothing => exact absent
  | tableAdded table => exact absent
  | tableChanged changes => exact absent
  | textDropped drops held => exact absent.of_representation fun _ => representation_setText _ _ _ _
  | lost held failed => exact absent.setRepresentation _ (by simp)
  | bare bare => exact absent
  | freed stored => exact absent.setRepresentation _ (by simp)
  | disposed cell =>
      have removed : (state.setRepresentation cell none).NoCustom :=
        absent.setRepresentation cell (by simp)
      exact removed.of_representation fun _ => representation_setText _ _ _ _
  | replaced installs cell number payload => exact absurd plain installs
  | assigned installs able held content => exact absurd held (absent _ _ _)
  | @answered cell _ resolution resolves =>
      have made : (state.addObject (.resolution resolution)).NoCustom := absent
      exact made.setRepresentation cell (by simp)
  | overwritten accepted resolves =>
      exact absent.of_representation fun _ => by rw [cells_setObject]
  | born text => exact absent.addCell (by simp)
  | bornCustom installs number payload => exact absurd plain installs
  | copiedBare held => exact absent.addCell (by simp)
  | copiedCustom held payload => exact absurd held (absent _ _ _)
  | @copiedResolution source old held =>
      have made : (state.addObject (state.content old)).NoCustom := absent
      exact made.addCell (by simp)

theorem Step.noCustom {step : Step Data} (plain : step.operation.Plain)
    (absent : step.before.NoCustom) : (step.after catalogue).NoCustom := by
  have effect := step.effect catalogue plain.installsCustom
  obtain ⟨prepared, committed, prepares, commit, same⟩ := effect.exists_commit
  have start := absent.of_representation prepares.representation
  exact (commit.noCustom plain start).of_representation fun cell => by rw [same.cells]

/-- A run that installs no payloads of custom types never makes one. -/
theorem Throughout.noCustom_of_plain {operations : List (Operation Data)}
    (plain : ∀ operation ∈ operations, operation.Plain) :
    (session catalogue operations).NoCustom := by
  induction operations with
  | nil =>
      intro cell number payload holds
      cases holds
  | cons operation earlier inductionHypothesis =>
      have absent := inductionHypothesis fun other member =>
        plain other (List.mem_cons_of_mem _ member)
      exact Step.noCustom (plain operation List.mem_cons_self) absent

end CommandWords
