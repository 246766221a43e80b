/-
This file defines value types by their hooks. A hook sees the tables and all earlier calls of
hooks, may fail at any call and cannot change a cell.
-/

import CommandWords.Fault
import CommandWords.Outcome.Basic
import CommandWords.Value.Basic

namespace CommandWords

inductive Hook where
  | free
  | duplicate
  | regenerate
  | convert
  | assign
deriving DecidableEq, Repr

/-- The argument of a hook is a payload together with its content at the call. -/
structure Argument (Data : Type) where
  payload : Payload Data
  content : Content Data
deriving DecidableEq

structure HookCall (Data : Type) where
  type : TypeId
  hook : Hook
  arguments : List (Argument Data)
deriving DecidableEq

/-- The calls include the present one, which comes first. -/
structure View (Data : Type) where
  tables : Store Table
  calls : List (HookCall Data)

/-- A conversion makes a payload from the text of a cell, or decides without reading it. -/
inductive Conversion (Data : Type) where
  | decided (result : Except Fault (Outcome (Made Data)))
  | fromText (result : String → Except Fault (Outcome (Made Data)))

structure ValueType (Data : Type) where
  name : String
  /-- Whether a content belongs to the type. -/
  owns : Content Data → Bool
  /-- Called when a payload is detached from its cell. -/
  free : View Data → Argument Data → Except Fault Unit
  /-- The payload for a copy of a cell. -/
  duplicate : View Data → Argument Data → Except Fault (Made Data)
  /-- The text that a payload stands for. -/
  regenerate : View Data → Argument Data → Except Fault String
  convert : View Data → Conversion Data
  /-- The new content of an installed payload that takes over another one. -/
  assign? : Option (View Data → Argument Data → Argument Data → Except Fault (Content Data))

end CommandWords
