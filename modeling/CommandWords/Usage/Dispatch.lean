/-
This file recovers the words of dispatched commands. An ensemble replaces the first words of a
command before it passes the command on.
-/

import CommandWords.Number.Basic

namespace CommandWords

/-- The inserted words stand in place of the first removed words that the user typed. -/
structure Dispatch (Word : Type) where
  typed : List Word
  removed : Number
  inserted : Number

namespace Dispatch

variable {Word : Type}

/-- A dispatch is undone when every inserted word is present. -/
def applies (dispatch : Dispatch Word) (words : List Word) : Bool :=
  !(Number.natural words.length).lessThan dispatch.inserted

/-- The words that the user typed. -/
def undo (dispatch : Dispatch Word) (words : List Word) : List Word :=
  if dispatch.applies words then
    dispatch.typed.take (dispatch.removed.position dispatch.typed.length) ++
      words.drop (dispatch.inserted.position words.length)
  else words

/-- Without a dispatch the words stay. -/
def undoAny (dispatch : Option (Dispatch Word)) (words : List Word) : List Word :=
  match dispatch with
  | some applied => applied.undo words
  | none => words

end Dispatch

end CommandWords
