/-
This file words the messages about keywords that are not found and about wrong usage.
-/

namespace CommandWords.Message

/-- The word or stands before the last choice. -/
def chosenFrom : List String → List String
  | [] => []
  | [last] => ["or " ++ last]
  | choice :: rest => choice :: chosenFrom rest

/-- Two choices are joined without a comma. -/
def choices : List String → String
  | [] => ""
  | [only] => only
  | [first, second] => first ++ " or " ++ second
  | many => ", ".intercalate (chosenFrom many)

/-- A value fits none of the choices, or more than one. -/
inductive Misfit where
  | bad
  | ambiguous
deriving DecidableEq, Repr

def Misfit.word : Misfit → String
  | bad => "bad"
  | ambiguous => "ambiguous"

def badValue (misfit : Misfit) (label value : String) (options : List String) : String :=
  let head := misfit.word ++ " " ++ label ++ " \"" ++ value ++ "\""
  match options with
  | [] => head ++ ": no valid options"
  | _ => head ++ ": must be " ++ choices options

/-- A usage message starts with these words. -/
def wrongArguments : String := "wrong # args: should be "

/-- A usage line stands alone or is one more alternative behind an earlier message. -/
def usage (line : String) (previous : Option String) : String :=
  match previous with
  | some message => message ++ " or \"" ++ line ++ "\""
  | none => wrongArguments ++ "\"" ++ line ++ "\""

end CommandWords.Message
