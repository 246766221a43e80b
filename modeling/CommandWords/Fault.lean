/-
This file defines faults, which end an action without a result.
-/

import CommandWords.Number.Text

namespace CommandWords

inductive Fault where
  /-- A cell has neither text nor a representation. -/
  | formless
  /-- A cell has no representation that its text could come from. -/
  | irreplaceableText
  /-- The slot of a resolution holds no keyword. -/
  | pastTable (index stride : Number)
  | typeRegistered (name : String)
  /-- A hook or a caller stopped the action. -/
  | raised (message : String)
deriving DecidableEq, Repr

def Fault.message : Fault → String
  | formless => "Obj.getString: value has neither text nor internal rep"
  | irreplaceableText =>
      "Obj.invalidateStringRep: value has no internal rep to regenerate text from"
  | pastTable index stride =>
      "IndexRep points past its table: index " ++ index.text ++ ", stride " ++ stride.text
  | typeRegistered name => "Value type already registered: " ++ name
  | raised message => message

end CommandWords
