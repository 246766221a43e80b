/-
This file words usage errors from the words of a command.
-/

import CommandWords.ListElement
import CommandWords.Message
import CommandWords.Value.Cell

namespace CommandWords

variable {Data : Type}

structure UsageOptions (Data : Type) where
  /-- The text behind the words. -/
  message : Option String
  dispatch : Option (Dispatch (CellRef Data))
  /-- An earlier usage message that this call is an alternative to. -/
  previous : Option String
  /-- The first printed word is never quoted. -/
  literalFirstWord : Bool

def UsageOptions.plain : UsageOptions Data := ⟨none, none, none, false⟩

namespace Action

variable (catalogue : Catalogue Data)

/-- A cell that was looked up prints its full keyword. -/
def showWord (mayQuote : Bool) (reference : CellRef Data) : Action Data String := do
  let present ← state
  match present.resolution? catalogue reference with
  | some resolution => ofResult (resolution.expand present.tables)
  | none => do
      let found ← text catalogue reference
      pure (if mayQuote then ListElement.quote found else found)

def showWords (quoteFirst : Bool) : List (CellRef Data) → Action Data (List String)
  | [] => pure []
  | first :: rest => do
      let word ← showWord catalogue quoteFirst first
      let words ← showWords true rest
      pure (word :: words)

/-- An empty text behind the words is left out. -/
def usageText (words : List (CellRef Data)) (options : UsageOptions Data) :
    Action Data String := do
  let printed ← showWords catalogue (!options.literalFirstWord)
    (Dispatch.undoAny options.dispatch words)
  let behind := (options.message.filter (· ≠ "")).toList
  pure (Message.usage (" ".intercalate (printed ++ behind)) options.previous)

end Action

end CommandWords
