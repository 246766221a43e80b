/-
This file shows that every kept resolution is an object of its own, so that writing one never
changes the answer of another cell.
-/

import CommandWords.Proofs.Session.StepEffect

namespace CommandWords

variable {Data : Type} {catalogue : Catalogue Data}

namespace State

def Holds (state : State Data) (cell : CellRef Data) (type : TypeId) (payload : Payload Data) :
    Prop :=
  (state.cells.get cell).representation = some ⟨type, payload⟩

/-- Every cell that holds a resolution has an object for it alone. -/
structure Owned (state : State Data) : Prop where
  object : ∀ {cell payload}, state.Holds cell .resolution payload →
    ∃ reference resolution, payload = .object reference ∧
      reference.number < state.objects.size ∧
        state.objects.get reference = .resolution resolution ∧
          Table.isStride resolution.stride = true
  single : ∀ {first second payload}, state.Holds first .resolution payload →
    state.Holds second .resolution payload → first = second

/-- A custom type has written into an object that a cell holds. -/
def Overwritten (catalogue : Catalogue Data) (operation : Operation Data)
    (first second : State Data) : Prop :=
  ¬ operation.Plain ∧ ∃ cell number target content,
    (catalogue.custom number).assign? ≠ none ∧ first.Holds cell (.custom number) target ∧
      second = first.setObject target content

/-- The objects of all resolutions that cells hold are as before. -/
def KeepsResolutions (first second : State Data) : Prop :=
  ∀ cell payload, first.Holds cell .resolution payload →
    second.content payload = first.content payload

theorem resolution?_eq (state : State Data) (cell : CellRef Data) :
    state.resolution? catalogue cell =
      match (state.cells.get cell).representation with
      | some ⟨.resolution, payload⟩ => (state.content payload).resolution?
      | _ => none := by
  unfold resolution? payload?
  cases held : (state.cells.get cell).representation with
  | none => rfl
  | some representation =>
      obtain ⟨type, payload⟩ := representation
      cases type with
      | custom number => simp
      | resolution =>
          simp only [true_and, Catalogue.describe, resolutionType]
          cases found : (state.content payload).resolution? with
          | none => simp
          | some resolution => simp [found]

/-- The answer of a cell hangs on its representation and the content of its payload alone. -/
theorem resolution?_congr {first second : State Data} {cell : CellRef Data}
    (unchanged : (second.cells.get cell).representation =
      (first.cells.get cell).representation)
    (content : ∀ payload, first.Holds cell .resolution payload →
      second.content payload = first.content payload) :
    second.resolution? catalogue cell = first.resolution? catalogue cell := by
  rw [resolution?_eq, resolution?_eq, unchanged]
  split
  next payload held => rw [content payload held]
  next => rfl

/-- Where no object changes, the representation alone decides. -/
theorem resolution?_of_objects {first second : State Data} {cell : CellRef Data}
    (unchanged : (second.cells.get cell).representation =
      (first.cells.get cell).representation)
    (objects : second.objects = first.objects) :
    second.resolution? catalogue cell = first.resolution? catalogue cell :=
  resolution?_congr unchanged fun payload _ => content_of_objects objects payload

theorem resolution?_of_holds {state : State Data} {cell : CellRef Data} {payload : Payload Data}
    (holds : state.Holds cell .resolution payload) :
    state.resolution? catalogue cell = (state.content payload).resolution? := by
  rw [resolution?_eq, holds]

theorem resolution?_of_bare {state : State Data} {cell : CellRef Data}
    (bare : ∀ payload, ¬ state.Holds cell .resolution payload) :
    state.resolution? catalogue cell = none := by
  rw [resolution?_eq]
  split
  next payload held => exact absurd held (bare payload)
  next => rfl

theorem holds_of_resolution? {state : State Data} {cell : CellRef Data} {resolution : Resolution}
    (kept : state.resolution? catalogue cell = some resolution) :
    ∃ payload, state.Holds cell .resolution payload ∧
      state.content payload = .resolution resolution := by
  rw [resolution?_eq] at kept
  split at kept
  next payload held =>
    refine ⟨payload, held, ?_⟩
    cases found : state.content payload with
    | vacant => simp [found, Content.resolution?] at kept
    | resolution value =>
        rw [found] at kept
        exact congrArg Content.resolution (Option.some.inj kept)
    | data value => simp [found, Content.resolution?] at kept
  next => cases kept

theorem content_of_holds {state : State Data} {cell : CellRef Data} {payload : Payload Data}
    {resolution : Resolution} (holds : state.Holds cell .resolution payload)
    (kept : state.resolution? catalogue cell = some resolution) :
    state.content payload = .resolution resolution := by
  obtain ⟨other, also, content⟩ := holds_of_resolution? kept
  cases also.symm.trans holds
  exact content

/-- A representation of the type of resolutions holds one. -/
theorem Owned.exists_resolution {state : State Data} (owned : state.Owned)
    {cell : CellRef Data} {payload : Payload Data} (holds : state.Holds cell .resolution payload) :
    ∃ resolution, state.resolution? catalogue cell = some resolution := by
  obtain ⟨reference, resolution, rfl, _, content, _⟩ := owned.object holds
  refine ⟨resolution, ?_⟩
  rw [State.resolution?_of_holds holds, State.content, content, Content.resolution?]

/-- The resolutions that the second state holds are held unchanged by the first one. -/
structure Frame (first second : State Data) : Prop where
  holds : ∀ {cell payload}, second.Holds cell .resolution payload →
    first.Holds cell .resolution payload
  grown : first.objects.size ≤ second.objects.size
  same : ∀ {cell reference}, first.Holds cell .resolution (.object reference) →
    reference.number < first.objects.size →
      second.objects.get reference = first.objects.get reference

namespace Frame

variable {first second : State Data}

theorem owned (frame : first.Frame second) (owned : first.Owned) : second.Owned := by
  constructor
  · intro cell payload holds
    obtain ⟨reference, resolution, equal, old, content, stride⟩ := owned.object (frame.holds holds)
    subst equal
    have present := Nat.lt_of_lt_of_le old frame.grown
    have kept := frame.same (frame.holds holds) old
    exact ⟨reference, resolution, rfl, present, kept.trans content, stride⟩
  · intro one other payload holds also
    exact owned.single (frame.holds holds) (frame.holds also)

/-- A cell that keeps its representation keeps its answer. -/
theorem resolution? (frame : first.Frame second) (owned : first.Owned) {cell : CellRef Data}
    (unchanged : (second.cells.get cell).representation =
      (first.cells.get cell).representation) :
    second.resolution? catalogue cell = first.resolution? catalogue cell := by
  apply resolution?_congr unchanged
  intro payload holds
  obtain ⟨reference, _, rfl, old, _, _⟩ := owned.object holds
  exact frame.same holds old

theorem of_cells (cells : second.cells = first.cells) (objects : second.objects = first.objects) :
    first.Frame second := by
  constructor
  · intro cell payload holds
    rwa [Holds, cells] at holds
  · exact Nat.le_of_eq (congrArg Store.size objects.symm)
  · intro cell reference holds old
    rw [objects]

theorem of_prepared (prepared : first.Prepared catalogue second) : first.Frame second := by
  constructor
  · intro cell payload holds
    rwa [Holds, prepared.representation] at holds
  · exact prepared.objectCount
  · intro cell reference holds old
    exact prepared.object_old old

theorem setText (state : State Data) (cell : CellRef Data) (text : Option String) :
    state.Frame (state.setText cell text) := by
  constructor
  · intro other payload holds
    rwa [Holds, representation_setText] at holds
  · exact Nat.le_refl _
  · intro other reference holds old
    rfl

/-- A write that spares the objects of resolutions. -/
theorem setObject {state : State Data} {target : Payload Data} {content : Content Data}
    (safe : state.KeepsResolutions (state.setObject target content)) :
    state.Frame (state.setObject target content) := by
  constructor
  · intro other payload holds
    rwa [Holds, cells_setObject] at holds
  · exact Nat.le_of_eq (size_setObject ..).symm
  · intro other reference holds old
    exact safe other (.object reference) holds

end Frame

/-- The kept answers change as the mark of an operation says. -/
structure Marked (catalogue : Catalogue Data) (first : State Data) (mark : Mark Data)
    (second : State Data) : Prop where
  owned : second.Owned
  answers : second.resolution? catalogue = mark.carryAnswers (first.resolution? catalogue)

theorem update_answers {first second : State Data} {cell : CellRef Data}
    {answer : Option Resolution}
    (others : ∀ other, other ≠ cell →
      second.resolution? catalogue other = first.resolution? catalogue other)
    (here : second.resolution? catalogue cell = answer) :
    second.resolution? catalogue =
      Function.update (first.resolution? catalogue) cell answer := by
  funext other
  by_cases same : other = cell
  · rw [same, Function.update_self, here]
  · rw [Function.update_of_ne same, others other same]

/-- Nothing but one cell changes, and this one is left without a resolution. -/
theorem Owned.cleared {first second : State Data} (owned : first.Owned) {cell : CellRef Data}
    (others : ∀ other, other ≠ cell → second.cells.get other = first.cells.get other)
    (bare : ∀ payload, ¬ second.Holds cell .resolution payload)
    (objects : second.objects = first.objects) :
    Marked catalogue first (.reset cell) second := by
  have frame : first.Frame second := by
    constructor
    · intro other payload holds
      have different : other ≠ cell := by
        intro same
        rw [same] at holds
        exact bare payload holds
      rwa [Holds, others other different] at holds
    · exact Nat.le_of_eq (congrArg Store.size objects.symm)
    · intro other reference holds old
      rw [objects]
  refine ⟨frame.owned owned, update_answers ?_ (resolution?_of_bare bare)⟩
  intro other different
  exact frame.resolution? owned (by rw [others other different])

@[simp] theorem get_addCell_next (state : State Data) (cell : Cell Data) :
    (state.addCell cell).cells.get state.cells.next = cell := by
  simp [addCell]

theorem get_addCell_other (state : State Data) {other : CellRef Data}
    (different : other ≠ state.cells.next) (cell : Cell Data) :
    (state.addCell cell).cells.get other = state.cells.get other :=
  state.cells.get_add_other different cell

theorem not_holds_of_bare {state : State Data} {cell : CellRef Data}
    (bare : (state.cells.get cell).representation = none) (payload : Payload Data) :
    ¬ state.Holds cell .resolution payload := by
  intro holds
  rw [Holds, bare] at holds
  cases holds

theorem not_holds_of_custom {state : State Data} {cell : CellRef Data} {number : Nat}
    {old : Payload Data} (held : state.Holds cell (.custom number) old)
    (payload : Payload Data) : ¬ state.Holds cell .resolution payload := by
  intro holds
  rw [Holds, held] at holds
  cases holds

/-- A write of the representation of one cell that leaves it without a resolution. -/
theorem Owned.setRepresentation {state : State Data} (owned : state.Owned) (cell : CellRef Data)
    {representation : Option (Representation Data)}
    (foreign : ∀ payload, representation ≠ some ⟨.resolution, payload⟩) :
    Marked catalogue state (.reset cell) (state.setRepresentation cell representation) := by
  apply owned.cleared
  · intro other different
    exact state.get_setRepresentation_other cell different representation
  · intro payload holds
    rw [Holds, get_setRepresentation] at holds
    exact foreign payload holds
  · rfl

theorem Owned.addCell {state : State Data} (owned : state.Owned) {cell : Cell Data}
    (foreign : ∀ payload, cell.representation ≠ some ⟨.resolution, payload⟩) :
    Marked catalogue state (.made state.cells.next) (state.addCell cell) := by
  have marked : Marked catalogue state (.reset state.cells.next) (state.addCell cell) := by
    apply owned.cleared
    · intro other different
      exact state.get_addCell_other different cell
    · intro payload holds
      rw [Holds, get_addCell_next] at holds
      exact foreign payload holds
    · rfl
  exact ⟨marked.owned, marked.answers⟩

/-- The objects of resolutions existed before the next new one. -/
theorem Owned.ne_next {state : State Data} (owned : state.Owned) {cell : CellRef Data}
    {payload : Payload Data} (holds : state.Holds cell .resolution payload) :
    payload ≠ .object state.objects.next := by
  intro equal
  obtain ⟨reference, _, same, old, _, _⟩ := owned.object holds
  rw [same] at equal
  rw [Payload.object.inj equal] at old
  exact Nat.lt_irrefl _ old

/-- A new object for a resolution is put into one cell, and nothing else changes. -/
theorem Owned.attached {state changed : State Data} (owned : state.Owned) {cell : CellRef Data}
    {resolution : Resolution} (stride : Table.isStride resolution.stride = true)
    (objects : changed.objects = (state.addObject (.resolution resolution)).objects)
    (others : ∀ other, other ≠ cell → changed.cells.get other = state.cells.get other)
    (here : changed.Holds cell .resolution (.object state.objects.next)) :
    Marked catalogue state (.answered cell resolution) changed := by
  have content : changed.objects.get state.objects.next = .resolution resolution := by
    rw [objects, get_addObject_next]
  have size : changed.objects.size = state.objects.size + 1 := by rw [objects, size_addObject]
  have kept : ∀ {reference : Ref (Content Data)}, reference.number < state.objects.size →
      changed.objects.get reference = state.objects.get reference := by
    intro reference old
    rw [objects, get_addObject_old _ old]
  have before : ∀ {other payload}, other ≠ cell → changed.Holds other .resolution payload →
      state.Holds other .resolution payload := by
    intro other payload different holds
    rwa [Holds, others other different] at holds
  refine ⟨⟨?_, ?_⟩, update_answers ?_ ?_⟩
  · intro other payload holds
    by_cases same : other = cell
    · rw [same, Holds, here] at holds
      cases holds
      exact ⟨_, resolution, rfl, by rw [size]; exact Nat.lt_succ_self _, content, stride⟩
    · obtain ⟨reference, value, equal, old, stored, valid⟩ := owned.object (before same holds)
      exact ⟨reference, value, equal, by omega, (kept old).trans stored, valid⟩
  · intro first second payload holds also
    by_cases one : first = cell
    · by_cases two : second = cell
      · rw [one, two]
      · rw [one, Holds, here] at holds
        cases holds
        exact absurd rfl (owned.ne_next (before two also))
    · by_cases two : second = cell
      · rw [two, Holds, here] at also
        cases also
        exact absurd rfl (owned.ne_next (before one holds))
      · exact owned.single (before one holds) (before two also)
  · intro other different
    apply resolution?_congr (by rw [others other different])
    intro payload holds
    obtain ⟨reference, _, rfl, old, _, _⟩ := owned.object holds
    exact kept old
  · rw [resolution?_of_holds here, State.content, content, Content.resolution?]

/-- A resolution that is written into an object changes the answer of its own cell alone. -/
theorem Owned.overwritten {state : State Data} (owned : state.Owned) {cell : CellRef Data}
    {target : Payload Data} {resolution : Resolution}
    (holds : state.Holds cell .resolution target)
    (stride : Table.isStride resolution.stride = true) :
    Marked catalogue state (.answered cell resolution)
      (state.setObject target (.resolution resolution)) := by
  obtain ⟨reference, _, rfl, present, _, _⟩ := owned.object holds
  have content : (state.setObject (.object reference) (.resolution resolution)).objects.get
      reference = .resolution resolution := by
    simp [setObject]
  have kept : ∀ {other : CellRef Data} {payload : Payload Data}, other ≠ cell →
      state.Holds other .resolution payload →
        (state.setObject (.object reference) (.resolution resolution)).content payload =
          state.content payload := by
    intro other payload different also
    obtain ⟨second, _, rfl, _, _, _⟩ := owned.object also
    have apart : Payload.object reference ≠ .object second := by
      intro same
      rw [← same] at also
      exact different (owned.single also holds)
    exact state.get_setObject_other apart (.resolution resolution)
  refine ⟨⟨?_, ?_⟩, update_answers ?_ ?_⟩
  · intro other payload also
    by_cases same : other = cell
    · subst same
      cases holds.symm.trans also
      exact ⟨reference, resolution, rfl, present, content, stride⟩
    · obtain ⟨second, value, rfl, old, stored, valid⟩ := owned.object also
      exact ⟨second, value, rfl, old, (kept same also).trans stored, valid⟩
  · exact owned.single
  · intro other different
    apply resolution?_congr (by rw [cells_setObject])
    intro payload also
    exact kept different also
  · have after : (state.setObject (.object reference) (.resolution resolution)).Holds cell
        .resolution (.object reference) := holds
    rw [resolution?_of_holds after, State.content, content, Content.resolution?]

/-- A stride that a lookup succeeds with is a positive integer. -/
theorem Resolves.isStride {state : State Data} {cell : CellRef Data} {exactOnly : Bool}
    {resolution : Resolution} (resolves : state.Resolves cell exactOnly resolution) :
    Table.isStride resolution.stride = true := by
  obtain ⟨_, keywords, effort, _, _, formed, _, _⟩ := resolves
  unfold Table.keywords at formed
  split at formed
  next => cases formed
  next distance found => rw [Table.isStride, found, Option.isSome_some]

/-- The free hook of resolutions never fails, so a lost representation was custom. -/
theorem custom_of_freeFails {state : State Data} {cell : CellRef Data}
    {representation : Representation Data} {fault : Fault}
    (held : (state.cells.get cell).representation = some representation)
    (failed : Action.FreeFails catalogue state representation fault) (payload : Payload Data) :
    ¬ state.Holds cell .resolution payload := by
  intro holds
  cases held.symm.trans holds
  obtain ⟨calls, ended⟩ := failed
  cases ended

theorem Frame.marked_nothing {first second : State Data} (frame : first.Frame second)
    (owned : first.Owned)
    (unchanged : ∀ cell, (second.cells.get cell).representation =
      (first.cells.get cell).representation) :
    Marked catalogue first .nothing second := by
  refine ⟨frame.owned owned, ?_⟩
  funext cell
  exact frame.resolution? owned (unchanged cell)

theorem marked_of_cells {first second : State Data} (owned : first.Owned)
    (cells : second.cells = first.cells) (objects : second.objects = first.objects) :
    Marked catalogue first .nothing second :=
  (Frame.of_cells cells objects).marked_nothing owned fun cell => by rw [cells]

/-- The loss of a representation that is no resolution changes no answer. -/
theorem Marked.nothing_of_bare {first second : State Data} {cell : CellRef Data}
    (marked : Marked catalogue first (.reset cell) second)
    (bare : ∀ payload, ¬ first.Holds cell .resolution payload) :
    Marked catalogue first .nothing second := by
  have unkept : first.resolution? catalogue cell = none := resolution?_of_bare bare
  refine ⟨marked.owned, marked.answers.trans ?_⟩
  simp only [Mark.carryAnswers]
  rw [← unkept, Function.update_eq_self]

/-- A copy of a cell without a resolution is a cell without an answer. -/
theorem Marked.copied_of_bare {first second : State Data} {source copy : CellRef Data}
    (marked : Marked catalogue first (.made copy) second)
    (bare : ∀ payload, ¬ first.Holds source .resolution payload) :
    Marked catalogue first (.copied source copy) second := by
  have unkept : first.resolution? catalogue source = none := resolution?_of_bare bare
  refine ⟨marked.owned, ?_⟩
  rw [marked.answers, Mark.carryAnswers, Mark.carryAnswers, unkept]

theorem Owned.disposed {state : State Data} (owned : state.Owned) (cell : CellRef Data) :
    Marked catalogue state (.disposed cell)
      ((state.setRepresentation cell none).setText cell none) := by
  have marked : Marked catalogue state (.reset cell)
      ((state.setRepresentation cell none).setText cell none) := by
    apply owned.cleared
    · intro other different
      rw [get_setText_other _ _ different, get_setRepresentation_other _ _ different]
    · intro payload holds
      rw [Holds, get_setText, get_setRepresentation] at holds
      cases holds
    · rfl
  exact ⟨marked.owned, marked.answers⟩

/-- A cell without an answer may be reset. -/
theorem Marked.reset_of_bare {first second : State Data} {cell : CellRef Data}
    (marked : Marked catalogue first .nothing second)
    (bare : ∀ payload, ¬ first.Holds cell .resolution payload) :
    Marked catalogue first (.reset cell) second := by
  have unkept : first.resolution? catalogue cell = none := resolution?_of_bare bare
  refine ⟨marked.owned, marked.answers.trans ?_⟩
  rw [Mark.carryAnswers, Mark.carryAnswers, ← unkept, Function.update_eq_self]

/-- The copy of a resolution is an object of its own. -/
theorem Owned.copied {state : State Data} (owned : state.Owned) {source : CellRef Data}
    {old : Payload Data} (held : state.Holds source .resolution old) :
    Marked catalogue state (.copied source state.cells.next)
      ((state.addObject (state.content old)).addCell
        ⟨(state.cells.get source).text, some ⟨.resolution, .object state.objects.next⟩⟩) := by
  obtain ⟨reference, resolution, rfl, present, content, stride⟩ := owned.object held
  have same : state.content (.object reference) = .resolution resolution := content
  have kept : state.resolution? catalogue source = some resolution := by
    rw [resolution?_of_holds held, same, Content.resolution?]
  have marked : Marked catalogue state (.answered state.cells.next resolution)
      ((state.addObject (state.content (.object reference))).addCell
        ⟨(state.cells.get source).text, some ⟨.resolution, .object state.objects.next⟩⟩) := by
    apply owned.attached stride
    · rw [same]
      rfl
    · intro other different
      exact get_addCell_other _ different _
    · exact congrArg Cell.representation (get_addCell_next _ _)
  refine ⟨marked.owned, ?_⟩
  rw [marked.answers, Mark.carryAnswers, Mark.carryAnswers, kept]

/-- A change that spares the objects of resolutions changes the kept answers as its mark says. -/
theorem Commit.marked {operation : Operation Data} {state committed : State Data}
    {mark : Mark Data} (owned : state.Owned)
    (safe : state.Overwritten catalogue operation committed → state.KeepsResolutions committed)
    (commit : Commit catalogue operation state mark committed) :
    Marked catalogue state mark committed := by
  cases commit with
  | nothing => exact ⟨owned, rfl⟩
  | tableAdded table => exact marked_of_cells owned rfl rfl
  | tableChanged changes => exact marked_of_cells owned rfl rfl
  | @textDropped cell _ _ _ =>
      have frame := Frame.setText state cell none
      exact frame.marked_nothing owned fun other => state.representation_setText cell other none
  | @lost cell _ _ held failed =>
      have marked : Marked catalogue state (.reset cell) (state.setRepresentation cell none) :=
        owned.setRepresentation cell (by simp)
      exact marked.nothing_of_bare (custom_of_freeFails held failed)
  | bare bare =>
      have unchanged : Marked catalogue state .nothing state := ⟨owned, rfl⟩
      exact unchanged.reset_of_bare (not_holds_of_bare bare)
  | freed stored => exact owned.setRepresentation _ (by simp)
  | disposed cell => exact owned.disposed cell
  | replaced installs cell number payload => exact owned.setRepresentation cell (by simp)
  | assigned installs able held content =>
      have frame := Frame.setObject (safe ⟨installs, _, _, _, content, able, held, rfl⟩)
      have unchanged : Marked catalogue state .nothing _ :=
        frame.marked_nothing owned fun _ => by rw [cells_setObject]
      exact unchanged.reset_of_bare (not_holds_of_custom held)
  | answered resolves =>
      apply owned.attached resolves.isStride
      · rfl
      · intro other different
        exact get_setRepresentation_other _ _ different _
      · rw [Holds, get_setRepresentation]
  | overwritten accepted resolves =>
      exact owned.overwritten (Action.held_of_payload? accepted) resolves.isStride
  | born text => exact owned.addCell (by simp)
  | bornCustom installs number payload => exact owned.addCell (by simp)
  | @copiedBare source held =>
      have marked : Marked catalogue state (.made state.cells.next)
          (state.addCell ⟨(state.cells.get source).text, none⟩) := owned.addCell (by simp)
      exact marked.copied_of_bare (not_holds_of_bare held)
  | @copiedCustom source number old held payload =>
      have marked : Marked catalogue state (.made state.cells.next)
          (state.addCell ⟨(state.cells.get source).text, some ⟨.custom number, payload⟩⟩) :=
        owned.addCell (by simp)
      exact marked.copied_of_bare (not_holds_of_custom held)
  | copiedResolution held => exact owned.copied held

end State

/-- If a custom type writes into an object on the way, it spares those of resolutions. -/
def State.SafeWrites (catalogue : Catalogue Data) (operation : Operation Data)
    (before after : State Data) : Prop :=
  ∀ {prepared committed}, before.Prepared catalogue prepared → committed.SameMemory after →
    prepared.Overwritten catalogue operation committed → prepared.KeepsResolutions committed

/-- An operation leaves every resolution with an object of its own and changes the kept answers
as its mark says. -/
theorem Effect.marked {operation : Operation Data} {before after : State Data} {mark : Mark Data}
    (owned : before.Owned) (safe : before.SafeWrites catalogue operation after)
    (effect : Effect catalogue operation before mark after) :
    State.Marked catalogue before mark after := by
  obtain ⟨prepared, committed, prepares, commit, same⟩ := effect.exists_commit
  have first := State.Frame.of_prepared prepares
  have start : State.Marked catalogue before .nothing prepared :=
    first.marked_nothing owned prepares.representation
  have change := commit.marked start.owned (safe prepares same)
  have last : State.Marked catalogue committed .nothing after :=
    State.marked_of_cells change.owned same.cells same.objects
  refine ⟨last.owned, ?_⟩
  rw [last.answers, Mark.carryAnswers, change.answers, start.answers, Mark.carryAnswers]

end CommandWords
