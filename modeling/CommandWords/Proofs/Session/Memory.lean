/-
This file says what the changes of a state leave alone, and which states keep every representation.
-/

import CommandWords.Value.Cell

namespace CommandWords

variable {Data : Type}

namespace State

/-- The states differ at most in interpreters, registries, the ledger and the noted calls. -/
structure SameMemory (first second : State Data) : Prop where
  tables : second.tables = first.tables
  objects : second.objects = first.objects
  cells : second.cells = first.cells

theorem SameMemory.refl (state : State Data) : state.SameMemory state := ⟨rfl, rfl, rfl⟩

theorem SameMemory.trans {first second third : State Data} (before : first.SameMemory second)
    (after : second.SameMemory third) : first.SameMemory third :=
  ⟨after.tables.trans before.tables, after.objects.trans before.objects,
    after.cells.trans before.cells⟩

theorem content_of_objects {first second : State Data} (objects : second.objects = first.objects)
    (payload : Payload Data) : second.content payload = first.content payload := by
  cases payload with
  | object reference => simp only [State.content, objects]
  | plain value => rfl

theorem SameMemory.content {first second : State Data} (same : first.SameMemory second)
    (payload : Payload Data) : second.content payload = first.content payload :=
  content_of_objects same.objects payload

theorem SameMemory.payload? {first second : State Data} (same : first.SameMemory second)
    (catalogue : Catalogue Data) (cell : CellRef Data) (type : TypeId) :
    second.payload? catalogue cell type = first.payload? catalogue cell type := by
  simp only [State.payload?, same.cells, same.content]

theorem SameMemory.resolution? {first second : State Data} (same : first.SameMemory second)
    (catalogue : Catalogue Data) (cell : CellRef Data) :
    second.resolution? catalogue cell = first.resolution? catalogue cell := by
  simp only [State.resolution?, same.payload?, same.content]

section changes

variable (state : State Data) (cell : CellRef Data)

@[simp] theorem tables_setText (text : Option String) :
    (state.setText cell text).tables = state.tables := rfl

@[simp] theorem objects_setText (text : Option String) :
    (state.setText cell text).objects = state.objects := rfl

@[simp] theorem get_setText (text : Option String) :
    (state.setText cell text).cells.get cell = { state.cells.get cell with text } := by
  simp [setText, setCell]

theorem get_setText_other {other : CellRef Data} (different : other ≠ cell)
    (text : Option String) :
    (state.setText cell text).cells.get other = state.cells.get other := by
  simp [setText, setCell, Store.get_set_other _ different]

@[simp] theorem representation_setText (other : CellRef Data) (text : Option String) :
    ((state.setText cell text).cells.get other).representation =
      (state.cells.get other).representation := by
  by_cases same : other = cell
  · rw [same, get_setText]
  · rw [get_setText_other state cell same]

@[simp] theorem tables_setRepresentation (representation : Option (Representation Data)) :
    (state.setRepresentation cell representation).tables = state.tables := rfl

@[simp] theorem objects_setRepresentation (representation : Option (Representation Data)) :
    (state.setRepresentation cell representation).objects = state.objects := rfl

@[simp] theorem get_setRepresentation (representation : Option (Representation Data)) :
    (state.setRepresentation cell representation).cells.get cell =
      { state.cells.get cell with representation } := by
  simp [setRepresentation, setCell]

theorem get_setRepresentation_other {other : CellRef Data} (different : other ≠ cell)
    (representation : Option (Representation Data)) :
    (state.setRepresentation cell representation).cells.get other = state.cells.get other := by
  simp [setRepresentation, setCell, Store.get_set_other _ different]

@[simp] theorem text_setRepresentation (other : CellRef Data)
    (representation : Option (Representation Data)) :
    ((state.setRepresentation cell representation).cells.get other).text =
      (state.cells.get other).text := by
  by_cases same : other = cell
  · rw [same, get_setRepresentation]
  · rw [get_setRepresentation_other state cell same]

@[simp] theorem tables_addObject (content : Content Data) :
    (state.addObject content).tables = state.tables := rfl

@[simp] theorem cells_addObject (content : Content Data) :
    (state.addObject content).cells = state.cells := rfl

@[simp] theorem size_addObject (content : Content Data) :
    (state.addObject content).objects.size = state.objects.size + 1 := rfl

@[simp] theorem get_addObject_next (content : Content Data) :
    (state.addObject content).objects.get state.objects.next = content := by
  simp [addObject]

/-- An object that was made before keeps its content. -/
theorem get_addObject_old {reference : Ref (Content Data)}
    (old : reference.number < state.objects.size) (content : Content Data) :
    (state.addObject content).objects.get reference = state.objects.get reference := by
  have different : reference ≠ state.objects.next := by
    intro same
    rw [same] at old
    exact Nat.lt_irrefl _ old
  exact state.objects.get_add_other different content

@[simp] theorem tables_setObject (payload : Payload Data) (content : Content Data) :
    (state.setObject payload content).tables = state.tables := by
  cases payload <;> rfl

@[simp] theorem cells_setObject (payload : Payload Data) (content : Content Data) :
    (state.setObject payload content).cells = state.cells := by
  cases payload <;> rfl

@[simp] theorem size_setObject (payload : Payload Data) (content : Content Data) :
    (state.setObject payload content).objects.size = state.objects.size := by
  cases payload <;> rfl

theorem get_setObject_other {payload : Payload Data} {reference : Ref (Content Data)}
    (different : payload ≠ .object reference) (content : Content Data) :
    (state.setObject payload content).objects.get reference = state.objects.get reference := by
  cases payload with
  | object target =>
      have apart : reference ≠ target := by
        intro same
        exact different (congrArg Payload.object same.symm)
      exact state.objects.get_set_other apart content
  | plain value => rfl

end changes

/-- The text that the type of a representation makes of its payload at present. -/
def Regenerates (state : State Data) (catalogue : Catalogue Data)
    (representation : Representation Data) (text : String) : Prop :=
  ∃ calls, (catalogue.describe representation.type).regenerate ⟨state.tables, calls⟩
    (state.argument representation.payload) = .ok text

/-- The later state is reached without touching a representation or a payload that is in use. New
objects may be made, and missing texts may be regenerated. -/
inductive Prepared (catalogue : Catalogue Data) (start : State Data) : State Data → Prop
  | start : Prepared catalogue start start
  | aside {middle later : State Data} (earlier : Prepared catalogue start middle)
      (same : middle.SameMemory later) : Prepared catalogue start later
  | object {middle : State Data} (earlier : Prepared catalogue start middle)
      (content : Content Data) : Prepared catalogue start (middle.addObject content)
  | text {middle : State Data} (earlier : Prepared catalogue start middle) {cell : CellRef Data}
      {representation : Representation Data} {text : String}
      (missing : (middle.cells.get cell).text = none)
      (held : (middle.cells.get cell).representation = some representation)
      (regenerated : middle.Regenerates catalogue representation text) :
      Prepared catalogue start (middle.setText cell (some text))

namespace Prepared

variable {catalogue : Catalogue Data} {first second third : State Data}

theorem of_same (same : first.SameMemory second) : Prepared catalogue first second :=
  .aside .start same

theorem trans (before : Prepared catalogue first second)
    (after : Prepared catalogue second third) : Prepared catalogue first third := by
  induction after with
  | start => exact before
  | aside earlier same inductionHypothesis => exact .aside inductionHypothesis same
  | object earlier content inductionHypothesis => exact .object inductionHypothesis content
  | text earlier missing held regenerated inductionHypothesis =>
      exact .text inductionHypothesis missing held regenerated

theorem tables (prepared : Prepared catalogue first second) : second.tables = first.tables := by
  induction prepared with
  | start => rfl
  | aside earlier same inductionHypothesis => exact same.tables.trans inductionHypothesis
  | object earlier content inductionHypothesis => exact inductionHypothesis
  | text earlier missing held regenerated inductionHypothesis => exact inductionHypothesis

theorem representation (prepared : Prepared catalogue first second) (cell : CellRef Data) :
    (second.cells.get cell).representation = (first.cells.get cell).representation := by
  induction prepared with
  | start => rfl
  | aside earlier same inductionHypothesis => rw [same.cells, inductionHypothesis]
  | object earlier content inductionHypothesis => exact inductionHypothesis
  | text earlier missing held regenerated inductionHypothesis =>
      rw [representation_setText, inductionHypothesis]

theorem cellCount (prepared : Prepared catalogue first second) :
    second.cells.size = first.cells.size := by
  induction prepared with
  | start => rfl
  | aside earlier same inductionHypothesis => rw [same.cells, inductionHypothesis]
  | object earlier content inductionHypothesis => exact inductionHypothesis
  | text earlier missing held regenerated inductionHypothesis => exact inductionHypothesis

theorem objectCount (prepared : Prepared catalogue first second) :
    first.objects.size ≤ second.objects.size := by
  induction prepared with
  | start => exact Nat.le_refl _
  | aside earlier same inductionHypothesis => rwa [same.objects]
  | object earlier content inductionHypothesis => exact Nat.le_succ_of_le inductionHypothesis
  | text earlier missing held regenerated inductionHypothesis => exact inductionHypothesis

/-- An object that existed at the start keeps its content. -/
theorem object_old (prepared : Prepared catalogue first second) {reference : Ref (Content Data)}
    (old : reference.number < first.objects.size) :
    second.objects.get reference = first.objects.get reference := by
  induction prepared with
  | start => rfl
  | aside earlier same inductionHypothesis => rw [same.objects, inductionHypothesis]
  | object earlier content inductionHypothesis =>
      have made := Nat.lt_of_lt_of_le old earlier.objectCount
      rw [get_addObject_old _ made, inductionHypothesis]
  | text earlier missing held regenerated inductionHypothesis => exact inductionHypothesis

/-- A stored text stays. -/
theorem text_stored (prepared : Prepared catalogue first second) {cell : CellRef Data}
    {text : String} (stored : (first.cells.get cell).text = some text) :
    (second.cells.get cell).text = some text := by
  induction prepared with
  | start => exact stored
  | aside earlier same inductionHypothesis => rw [same.cells, inductionHypothesis]
  | object earlier content inductionHypothesis => exact inductionHypothesis
  | @text middle earlier changed representation regenerated missing held _ inductionHypothesis =>
      by_cases same : cell = changed
      · rw [same, missing] at inductionHypothesis
        cases inductionHypothesis
      · rw [get_setText_other _ _ same, inductionHypothesis]

end Prepared

end State

end CommandWords
