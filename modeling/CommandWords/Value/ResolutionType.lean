/-
This file defines the type of cells that keep a resolution. The table is part of a
resolution, so no text can be converted to this type.
-/

import CommandWords.Table.Keywords
import CommandWords.Value.ValueType

namespace CommandWords

/-- The full keyword that a resolution stands for. -/
def Resolution.expand (resolution : Resolution) (tables : Store Table) : Except Fault String :=
  match (tables.get resolution.table).keywordAt resolution.stride resolution.index with
  | some keyword => .ok keyword
  | none => .error (.pastTable resolution.index resolution.stride)

def Content.resolution? {Data : Type} : Content Data → Option Resolution
  | .resolution value => some value
  | _ => none

def resolutionTypeName : String := "index"

namespace ResolutionType

variable {Data : Type}

/-- A payload of another type points to no keyword. -/
def regenerate (view : View Data) (argument : Argument Data) : Except Fault String :=
  match argument.content.resolution? with
  | some resolution => resolution.expand view.tables
  | none => .error (.pastTable .nan .nan)

def refusal : Outcome (Made Data) :=
  .inconvertible resolutionTypeName
    "can't convert value to index except via getIndexFromObj API"

end ResolutionType

/-- A lookup overwrites an installed resolution in place. -/
def resolutionType (Data : Type) : ValueType Data where
  name := resolutionTypeName
  owns content := content.resolution?.isSome
  free _ _ := .ok ()
  duplicate _ argument := .ok (.object argument.content)
  regenerate := ResolutionType.regenerate
  convert _ := .decided (.ok ResolutionType.refusal)
  assign? := some fun _ _ source => .ok source.content

/-- A catalogue describes the custom types. -/
structure Catalogue (Data : Type) where
  custom : Nat → ValueType Data

def Catalogue.describe {Data : Type} (catalogue : Catalogue Data) : TypeId → ValueType Data
  | .resolution => resolutionType Data
  | .custom number => catalogue.custom number

end CommandWords
