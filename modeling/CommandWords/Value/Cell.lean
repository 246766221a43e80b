/-
This file defines the operations on cells. Text is regenerated from the representation when it is
missing, and every installed payload is freed when it is detached.
-/

import CommandWords.Value.Hooks

namespace CommandWords

variable {Data : Type}

namespace State

def setCell (state : State Data) (reference : CellRef Data) (cell : Cell Data) : State Data :=
  { state with cells := state.cells.set reference cell }

def setText (state : State Data) (reference : CellRef Data) (text : Option String) : State Data :=
  state.setCell reference { state.cells.get reference with text }

def setRepresentation (state : State Data) (reference : CellRef Data)
    (representation : Option (Representation Data)) : State Data :=
  state.setCell reference { state.cells.get reference with representation }

def typeName? (state : State Data) (catalogue : Catalogue Data) (reference : CellRef Data) :
    Option String :=
  (state.cells.get reference).representation.map fun representation =>
    (catalogue.describe representation.type).name

/-- The payload of a representation of this very type that the type accepts. -/
def payload? (state : State Data) (catalogue : Catalogue Data) (reference : CellRef Data)
    (type : TypeId) : Option (Payload Data) :=
  match (state.cells.get reference).representation with
  | none => none
  | some representation =>
      if representation.type = type ∧
          (catalogue.describe type).owns (state.content representation.payload) then
        some representation.payload
      else none

/-- The resolution that a cell keeps. -/
def resolution? (state : State Data) (catalogue : Catalogue Data) (reference : CellRef Data) :
    Option Resolution :=
  (state.payload? catalogue reference .resolution).bind fun payload =>
    (state.content payload).resolution?

/-- Whether a cell has a representation of this type that also fits a condition. -/
def isCompatible (state : State Data) (catalogue : Catalogue Data) (reference : CellRef Data)
    (type : TypeId) (fits : Content Data → Bool) : Bool :=
  (state.payload? catalogue reference type).any fun payload => fits (state.content payload)

end State

namespace Action

def addCell (cell : Cell Data) : Action Data (CellRef Data) := do
  let before ← state
  change fun present => { present with cells := present.cells.add cell }
  pure before.cells.next

def ofText (text : String) : Action Data (CellRef Data) := addCell ⟨some text, none⟩

def ofPayload (type : TypeId) (payload : Payload Data) : Action Data (CellRef Data) :=
  addCell ⟨none, some ⟨type, payload⟩⟩

variable (catalogue : Catalogue Data) (reference : CellRef Data)

/-- A regenerated text stays in the cell. -/
def text : Action Data String := do
  let cell := (← state).cells.get reference
  match cell.text, cell.representation with
  | some present, _ => pure present
  | none, none => fail .formless
  | none, some representation => do
      let regenerated ← callRegenerate catalogue representation
      change fun present => present.setText reference (some regenerated)
      pure regenerated

def invalidateText : Action Data Unit := do
  let cell := (← state).cells.get reference
  match cell.representation with
  | none => fail .irreplaceableText
  | some _ => change fun present => present.setText reference none

/-- The representation leaves the cell before its payload is freed. -/
def detach : Action Data Unit := do
  let cell := (← state).cells.get reference
  match cell.representation with
  | none => pure ()
  | some representation => do
      change fun present => present.setRepresentation reference none
      callFree catalogue representation

/-- Install a payload by detaching the old one. -/
def replace (type : TypeId) (payload : Payload Data) : Action Data Unit := do
  detach catalogue reference
  change fun present => present.setRepresentation reference (some ⟨type, payload⟩)

/-- An accepted payload of the same type takes over the new one if its type can assign. -/
def install (type : TypeId) (payload : Payload Data) : Action Data Unit := do
  let present ← state
  match present.payload? catalogue reference type, (catalogue.describe type).assign? with
  | some target, some assign => callAssign type assign target payload
  | _, _ => replace catalogue reference type payload

/-- The text is regenerated before its source is detached. -/
def freeRepresentation : Action Data Unit := do
  let cell := (← state).cells.get reference
  match cell.representation with
  | none => pure ()
  | some _ => do
      let _ ← text catalogue reference
      detach catalogue reference

def duplicateRepresentation :
    Option (Representation Data) → Action Data (Option (Representation Data))
  | none => pure none
  | some representation => do
      let payload ← callDuplicate catalogue representation
      pure (some ⟨representation.type, payload⟩)

/-- The copy has the same text and a payload of its own. -/
def duplicate : Action Data (CellRef Data) := do
  let cell := (← state).cells.get reference
  let representation ← duplicateRepresentation catalogue cell.representation
  addCell ⟨cell.text, representation⟩

/-- A cell must not be used after this. -/
def dispose : Action Data Unit := do
  detach catalogue reference
  change fun present => present.setText reference none

end Action

end CommandWords
