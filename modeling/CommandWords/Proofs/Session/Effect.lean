/-
This file finds the one change that an operation makes. Everything else that it does leaves the
representations of cells and their payloads alone.
-/

import CommandWords.Proofs.Lookup.LookupRun
import CommandWords.Proofs.Session.History

namespace CommandWords

variable {Data : Type}

/-- Lookups and copies alone give a resolution to a cell. -/
def Operation.InstallsCustom : Operation Data → Prop
  | ofPayload type _ => type ≠ .resolution
  | install _ type _ => type ≠ .resolution
  | _ => True

/-- The operation gives no cell a payload of a custom type, unless it copies one. -/
def Operation.Plain : Operation Data → Prop
  | ofPayload _ _ => False
  | install _ _ _ => False
  | convert _ _ _ => False
  | _ => True

namespace State

/-- The stored text of a cell resolves to an index of a table. -/
def Resolves (state : State Data) (cell : CellRef Data) (exactOnly : Bool)
    (resolution : Resolution) : Prop :=
  ∃ key keywords effort position,
    (state.cells.get cell).text = some key ∧
      (state.tables.get resolution.table).keywords resolution.stride = .done keywords effort ∧
        (Scan.run key keywords).resolved? exactOnly = some position ∧
          resolution.index = .ofNat position

/-- The one change of an operation, with its meaning for kept answers. -/
inductive Commit (catalogue : Catalogue Data) (operation : Operation Data) (state : State Data) :
    Mark Data → State Data → Prop
  | nothing : Commit catalogue operation state .nothing state
  | tableAdded (table : Table) :
      Commit catalogue operation state .nothing
        { state with tables := state.tables.add table }
  | tableChanged {reference : Ref Table} {table : Table}
      (changes : operation = .changeTable reference table) :
      Commit catalogue operation state .nothing
        { state with tables := state.tables.set reference table }
  | textDropped {cell : CellRef Data} {representation : Representation Data}
      (drops : operation = .invalidateText cell)
      (held : (state.cells.get cell).representation = some representation) :
      Commit catalogue operation state .nothing (state.setText cell none)
  | lost {cell : CellRef Data} {representation : Representation Data} {fault : Fault}
      (held : (state.cells.get cell).representation = some representation)
      (failed : Action.FreeFails catalogue state representation fault) :
      Commit catalogue operation state .nothing (state.setRepresentation cell none)
  | bare {cell : CellRef Data} (bare : (state.cells.get cell).representation = none) :
      Commit catalogue operation state (.reset cell) state
  | freed {cell : CellRef Data} {text : String}
      (stored : (state.cells.get cell).text = some text) :
      Commit catalogue operation state (.reset cell) (state.setRepresentation cell none)
  | disposed (cell : CellRef Data) :
      Commit catalogue operation state (.disposed cell)
        ((state.setRepresentation cell none).setText cell none)
  | replaced (installs : ¬ operation.Plain) (cell : CellRef Data) (number : Nat)
      (payload : Payload Data) :
      Commit catalogue operation state (.reset cell)
        (state.setRepresentation cell (some ⟨.custom number, payload⟩))
  | assigned {cell : CellRef Data} {number : Nat} {target : Payload Data}
      (installs : ¬ operation.Plain) (able : (catalogue.custom number).assign? ≠ none)
      (held : (state.cells.get cell).representation = some ⟨.custom number, target⟩)
      (content : Content Data) :
      Commit catalogue operation state (.reset cell) (state.setObject target content)
  | answered {cell : CellRef Data} {exactOnly : Bool} {resolution : Resolution}
      (resolves : state.Resolves cell exactOnly resolution) :
      Commit catalogue operation state (.answered cell resolution)
        ((state.addObject (.resolution resolution)).setRepresentation cell
          (some ⟨.resolution, .object state.objects.next⟩))
  | overwritten {cell : CellRef Data} {exactOnly : Bool} {resolution : Resolution}
      {target : Payload Data}
      (accepted : state.payload? catalogue cell .resolution = some target)
      (resolves : state.Resolves cell exactOnly resolution) :
      Commit catalogue operation state (.answered cell resolution)
        (state.setObject target (.resolution resolution))
  | born (text : String) :
      Commit catalogue operation state (.made state.cells.next) (state.addCell ⟨some text, none⟩)
  | bornCustom (installs : ¬ operation.Plain) (number : Nat) (payload : Payload Data) :
      Commit catalogue operation state (.made state.cells.next)
        (state.addCell ⟨none, some ⟨.custom number, payload⟩⟩)
  | copiedBare {source : CellRef Data}
      (held : (state.cells.get source).representation = none) :
      Commit catalogue operation state (.copied source state.cells.next)
        (state.addCell ⟨(state.cells.get source).text, none⟩)
  | copiedCustom {source : CellRef Data} {number : Nat} {old : Payload Data}
      (held : (state.cells.get source).representation = some ⟨.custom number, old⟩)
      (payload : Payload Data) :
      Commit catalogue operation state (.copied source state.cells.next)
        (state.addCell ⟨(state.cells.get source).text, some ⟨.custom number, payload⟩⟩)
  | copiedResolution {source : CellRef Data} {old : Payload Data}
      (held : (state.cells.get source).representation = some ⟨.resolution, old⟩) :
      Commit catalogue operation state (.copied source state.cells.next)
        ((state.addObject (state.content old)).addCell
          ⟨(state.cells.get source).text, some ⟨.resolution, .object state.objects.next⟩⟩)

end State

/-- An operation prepares, commits one change and then keeps the memory. -/
structure Effect (catalogue : Catalogue Data) (operation : Operation Data) (before : State Data)
    (mark : Mark Data) (after : State Data) : Prop where
  intro ::
  exists_commit : ∃ prepared committed, before.Prepared catalogue prepared ∧
    State.Commit catalogue operation prepared mark committed ∧ committed.SameMemory after

/-- A mark that is left only by an operation that ends well. -/
def Mark.whenDone {Value : Type} (mark : Mark Data) : Except Fault Value → Mark Data
  | .ok _ => mark
  | .error _ => .nothing

namespace Effect

variable {catalogue : Catalogue Data} {operation : Operation Data}
  {before prepared after later : State Data} {mark : Mark Data}

theorem of_commit (commit : State.Commit catalogue operation before mark after) :
    Effect catalogue operation before mark after :=
  ⟨before, after, .start, commit, .refl after⟩

theorem of_prepared (prepares : before.Prepared catalogue after) :
    Effect catalogue operation before .nothing after :=
  ⟨after, after, prepares, .nothing, .refl after⟩

theorem after_prepared (prepares : before.Prepared catalogue prepared)
    (effect : Effect catalogue operation prepared mark after) :
    Effect catalogue operation before mark after := by
  obtain ⟨middle, committed, rest, commit, same⟩ := effect.exists_commit
  exact ⟨middle, committed, prepares.trans rest, commit, same⟩

theorem before_same (effect : Effect catalogue operation before mark after)
    (same : after.SameMemory later) : Effect catalogue operation before mark later := by
  obtain ⟨middle, committed, prepares, commit, kept⟩ := effect.exists_commit
  exact ⟨middle, committed, prepares, commit, kept.trans same⟩

end Effect

namespace Action

variable {catalogue : Catalogue Data} {operation : Operation Data}

theorem effect_ofMade (installs : ¬ operation.Plain) (number : Nat) (made : Made Data)
    (state : State Data) :
    Effect catalogue operation state (.made state.cells.next)
      ((ofMade (.custom number) made).run state).2 := by
  cases made with
  | object content =>
      exact .after_prepared (.object .start content) (.of_commit (.bornCustom installs number _))
  | existing payload => exact .of_commit (.bornCustom installs number payload)

theorem effect_invalidateText (cell : CellRef Data) (state : State Data) :
    Effect catalogue (.invalidateText cell) state .nothing ((invalidateText cell).run state).2 := by
  unfold invalidateText
  rw [run_bind_ok (run_state state)]
  cases held : (state.cells.get cell).representation with
  | none =>
      simp only [held]
      exact .of_prepared .start
  | some representation =>
      simp only [held]
      exact .of_commit (.textDropped rfl held)

/-- The payload that a type accepts is the one that the cell holds. -/
theorem held_of_payload? {state : State Data} {cell : CellRef Data} {type : TypeId}
    {target : Payload Data} (accepted : state.payload? catalogue cell type = some target) :
    (state.cells.get cell).representation = some ⟨type, target⟩ := by
  unfold State.payload? at accepted
  split at accepted
  next => cases accepted
  next representation held =>
    simp only [Option.ite_none_right_eq_some, Option.some.injEq] at accepted
    obtain ⟨⟨same, _⟩, rfl⟩ := accepted
    rw [held, ← same]

/-- A resolution that is accepted for a write is one already. -/
theorem resolves_of_payload? {state : State Data} {cell : CellRef Data} {target : Payload Data}
    (accepted : state.payload? catalogue cell .resolution = some target) :
    (state.content target).resolution? ≠ none := by
  unfold State.payload? at accepted
  split at accepted
  next => cases accepted
  next representation held =>
    simp only [Option.ite_none_right_eq_some, Option.some.injEq] at accepted
    obtain ⟨⟨_, owns⟩, rfl⟩ := accepted
    exact Option.isSome_iff_ne_none.mp owns

theorem InstallRun.effect {cell : CellRef Data} {number : Nat} {payload : Payload Data}
    {state later : State Data} {ending : Except Fault Unit}
    (installed : InstallRun catalogue cell (.custom number) payload state ending later)
    (installs : ¬ operation.Plain) :
    Effect catalogue operation state ((Mark.reset cell).whenDone ending) later := by
  cases installed with
  | assigned accepted written same =>
      obtain ⟨assign, calls, able, written⟩ := written
      have assigns : (catalogue.custom number).assign? ≠ none := Option.ne_none_iff_exists'.mpr
        ⟨assign, able⟩
      have held := held_of_payload? accepted
      exact .before_same (.of_commit (.assigned installs assigns held _)) same
  | unassigned accepted failed same => exact .of_prepared (.of_same same)
  | replaced separate same =>
      exact .before_same (.of_commit (.replaced installs cell number payload)) same
  | lost held failed same => exact .before_same (.of_commit (.lost held failed)) same

theorem effect_installMade (installs : ¬ operation.Plain) (cell : CellRef Data) (number : Nat)
    (made : Made Data) (state : State Data) :
    Effect catalogue operation state
      ((Mark.reset cell).whenDone ((installMade catalogue cell (.custom number) made).run state).1)
      ((installMade catalogue cell (.custom number) made).run state).2 := by
  unfold installMade
  have prepares : state.Prepared catalogue ((make made).run state).2 := prepares_make made state
  cases made with
  | object content =>
      rw [run_bind_ok (run_make_object content state)]
      exact .after_prepared prepares ((install_run ..).effect installs)
  | existing payload =>
      rw [make, pure_bind]
      exact (install_run ..).effect installs

end Action

end CommandWords
