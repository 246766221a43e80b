/-
This file defines values. A cell holds a text, an internal representation, or both, and the payload
of a representation may be an object that is changed in place.
-/

import CommandWords.Table.Basic

namespace CommandWords

/-- The types other than that of resolutions are numbered. -/
inductive TypeId where
  | resolution
  | custom (number : Nat)
deriving DecidableEq, Repr

/-- The content of an object. An object that was never made is vacant. -/
inductive Content (Data : Type) where
  | vacant
  | resolution (value : Resolution)
  | data (value : Data)
deriving DecidableEq

/-- A payload is an object with an identity or plain data. -/
inductive Payload (Data : Type) where
  | object (reference : Ref (Content Data))
  | plain (value : Data)
deriving DecidableEq

/-- A payload that is new to its owner is a new object or a payload that exists already. -/
inductive Made (Data : Type) where
  | object (content : Content Data)
  | existing (payload : Payload Data)

structure Representation (Data : Type) where
  type : TypeId
  payload : Payload Data
deriving DecidableEq

structure Cell (Data : Type) where
  text : Option String
  representation : Option (Representation Data)

/-- A cell that was disposed of or never made. -/
def Cell.blank {Data : Type} : Cell Data := ⟨none, none⟩

abbrev CellRef (Data : Type) := Ref (Cell Data)

end CommandWords
