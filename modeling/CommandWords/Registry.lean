/-
This file keeps value types by name and converts cells to them.
-/

import CommandWords.Text.Units
import CommandWords.Value.Cell

namespace CommandWords

variable {Data : Type}

namespace Registry

/-- A name is registered once. -/
def register (registry : Registry) (catalogue : Catalogue Data) (type : TypeId) :
    Except Fault Registry :=
  let name := (catalogue.describe type).name
  match registry.lookup name with
  | some _ => .error (.typeRegistered name)
  | none => .ok (registry ++ [(name, type)])

def get? (registry : Registry) (name : String) : Option TypeId := registry.lookup name

def has (registry : Registry) (name : String) : Bool := (registry.get? name).isSome

/-- The types in the order of their registration. -/
def types (registry : Registry) : List TypeId := registry.map Prod.snd

/-- The names in the order of their units. -/
def names (registry : Registry) : List String := (registry.map Prod.fst).mergeSort Text.atMost

/-- The registry of the types that this library defines. -/
def standard : Registry := [(resolutionTypeName, .resolution)]

end Registry

namespace Action

def addRegistry (registry : Registry) : Action Data (Ref Registry) := do
  let before ← state
  change fun present => { present with registries := present.registries.add registry }
  pure before.registries.next

variable (catalogue : Catalogue Data)

def register (registry : Ref Registry) (type : TypeId) : Action Data Unit := do
  let present ← state
  let extended ← ofResult ((present.registries.get registry).register catalogue type)
  change fun later => { later with registries := later.registries.set registry extended }

/-- A cell that fails to convert keeps the representation that it has. -/
def convertTo (reference : CellRef Data) (type : TypeId) : Action Data (Outcome Unit) := do
  let result ← callConvert catalogue type (text catalogue reference)
  match result with
  | .fail failure effort => pure (.fail failure effort)
  | .done made _ => do
      let payload ← make made
      install catalogue reference type payload
      pure (.done () .unknown)

/-- Convert a cell to the type of a name, unless it has that type already. -/
def convert (registry : Ref Registry) (reference : CellRef Data) (name : String) :
    Action Data (Outcome Unit) := do
  let present ← state
  match (present.registries.get registry).get? name with
  | none => pure (.unregistered name)
  | some type =>
      if present.isCompatible catalogue reference type fun _ => true then
        pure (.done () ⟨none, some true⟩)
      else convertTo catalogue reference type

end Action

end CommandWords
