/-
This file lists the known problems. Each one has a message template whose placeholders are
filled one after another.
-/

import CommandWords.Outcome.Diagnostic
import CommandWords.Number.Text
import CommandWords.Text.Substitution

namespace CommandWords

inductive Problem where
  | badValue
  | ambiguousValue
  | impossibleConversion
  | unknownType
  | malformedTable
deriving DecidableEq, Repr

namespace Problem

def all : List Problem :=
  [badValue, ambiguousValue, impossibleConversion, unknownType, malformedTable]

def code : Problem → String
  | badValue => "E0100"
  | ambiguousValue => "E0101"
  | impossibleConversion => "E0200"
  | unknownType => "E0201"
  | malformedTable => "E0300"

def category : Problem → String
  | badValue => "Lookup"
  | ambiguousValue => "Lookup"
  | impossibleConversion => "Conversion"
  | unknownType => "Conversion"
  | malformedTable => "Table"

/-- Every known problem is an error. -/
def severity (_ : Problem) : Severity := .error

/-- A placeholder is a name in braces. -/
def placeholder (name : String) : String := "\x7b" ++ name ++ "\x7d"

def template : Problem → String
  | badValue => "Bad " ++ placeholder "label" ++ ": " ++ placeholder "value"
  | ambiguousValue => "Ambiguous " ++ placeholder "label" ++ ": " ++ placeholder "value"
  | impossibleConversion => "Cannot convert value to " ++ placeholder "type"
  | unknownType => "Unknown value type: " ++ placeholder "type"
  | malformedTable => "Malformed keyword table: " ++ placeholder "detail"

theorem mem_all (problem : Problem) : problem ∈ all := by cases problem <;> decide

end Problem

/-- A parameter fills the placeholder of its name. -/
inductive Parameter where
  | text (value : String)
  | number (value : Number)
deriving DecidableEq, Repr

namespace Parameter

def written : Parameter → String
  | text value => value
  | number value => value.text

def toJson : Parameter → Json
  | text value => .text value
  | number value => .number value

/-- A name that writes a list position is a number without leading zeros below this bound. -/
def positionBound : Nat := twoPower 32 - 1

def position? (name : String) : Option Nat :=
  match name.toNat? with
  | some position =>
      if toString position = name ∧ position < positionBound then some position else none
  | none => none

/-- Names that write list positions come first, in ascending order. -/
def arrange (parameters : Fields Parameter) : Fields Parameter :=
  let positioned := parameters.filterMap fun field =>
    (position? field.1).map fun position => (position, field)
  let sorted := positioned.mergeSort fun first second => first.1 ≤ second.1
  sorted.map Prod.snd ++ parameters.filter fun field => (position? field.1).isNone

/-- A later placeholder may be found in the value of an earlier one. -/
def fill (template : String) (parameters : Fields Parameter) : String :=
  parameters.foldl
    (fun message field =>
      String.ofList (Text.replaceFirst message.toList
        (Problem.placeholder field.1).toList field.2.written.toList))
    template

end Parameter

/-- The diagnostic of a problem keeps its parameters as data. -/
def Problem.diagnose (problem : Problem) (parameters : Option (Fields Parameter)) : Diagnostic :=
  let arranged := parameters.map Parameter.arrange
  { code := problem.code
    severity := problem.severity
    message := Parameter.fill problem.template (arranged.getD [])
    data := arranged.map (List.map fun field => (field.1, field.2.toJson))
    related := none }

end CommandWords
