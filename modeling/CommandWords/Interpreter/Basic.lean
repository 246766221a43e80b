/-
This file defines the state of an interpreter that lookups and usage errors write into.
-/

import CommandWords.Configuration.Basic
import CommandWords.Usage.Dispatch

namespace CommandWords

structure Interpreter (Word : Type) where
  /-- The text of the last result or error. -/
  result : String
  /-- Usage errors are appended to the result as alternatives. -/
  alternate : Bool
  /-- The dispatch of the ensemble that passes commands on at present. -/
  dispatch : Option (Dispatch Word)
  configuration : Configuration

def Interpreter.fresh {Word : Type} (configuration : Configuration) : Interpreter Word :=
  ⟨"", false, none, configuration⟩

end CommandWords
