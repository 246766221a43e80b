/-
This file defines outcomes: a value or a failure, together with how it was found.
-/

import CommandWords.Outcome.Problem
import CommandWords.Outcome.Failure

namespace CommandWords

/-- The effort says how many table entries were compared and whether a cached answer was used. -/
structure Effort where
  comparisons : Option Number
  cached : Option Bool
deriving DecidableEq, Repr

def Effort.unknown : Effort := ⟨none, none⟩

inductive Outcome (Value : Type) where
  | done (value : Value) (effort : Effort)
  | fail (failure : Failure Diagnostic) (effort : Effort)
deriving Repr

namespace Outcome

variable {Value Result : Type}

def isDone : Outcome Value → Bool
  | done _ _ => true
  | fail _ _ => false

def isFail : Outcome Value → Bool
  | done _ _ => false
  | fail _ _ => true

def effort : Outcome Value → Effort
  | done _ effort => effort
  | fail _ effort => effort

def handle (onDone : Value → Result) (onFail : Failure Diagnostic → Result) :
    Outcome Value → Result
  | done value _ => onDone value
  | fail failure _ => onFail failure

def map (function : Value → Result) : Outcome Value → Outcome Result
  | done value effort => done (function value) effort
  | fail failure effort => fail failure effort

/-- The effort of the next step replaces the effort so far. -/
def andThen (outcome : Outcome Value) (next : Value → Outcome Result) : Outcome Result :=
  match outcome with
  | done value _ => next value
  | fail failure effort => fail failure effort

def toExcept : Outcome Value → Except (Failure Diagnostic) Value
  | done value _ => .ok value
  | fail failure _ => .error failure

def getD (fallback : Value) : Outcome Value → Value
  | done value _ => value
  | fail _ _ => fallback

/-- The label and the value that a lookup failed on. -/
def lookupFields (label value : String) : Fields Parameter :=
  [("label", .text label), ("value", .text value)]

def unmatched (label value message : String) (effort : Effort) : Outcome Value :=
  fail
    { reason := .noMatch
      message
      diagnostics := [Problem.badValue.diagnose (some (lookupFields label value))]
      recoverable := true
      context := some [("label", .text label), ("value", .text value)]
      suggestions := none
      causes := [] }
    effort

def severalMatches (label value message : String) (candidates : List String) (effort : Effort) :
    Outcome Value :=
  fail
    { reason := .ambiguous
      message
      diagnostics := [Problem.ambiguousValue.diagnose (some (lookupFields label value))]
      recoverable := true
      context := some
        [("label", .text label), ("value", .text value),
          ("candidates", .array (candidates.map .text))]
      suggestions := some candidates
      causes := [] }
    effort

/-- A failure that names only the value type. -/
def typeFailure (reason : Reason) (problem : Problem) (typeName message : String) :
    Outcome Value :=
  fail
    { reason
      message
      diagnostics := [problem.diagnose (some [("type", .text typeName)])]
      recoverable := false
      context := some [("type", .text typeName)]
      suggestions := none
      causes := [] }
    .unknown

def inconvertible (typeName message : String) : Outcome Value :=
  typeFailure .unsupportedConversion .impossibleConversion typeName message

def unregistered (typeName : String) : Outcome Value :=
  typeFailure .unknownType .unknownType typeName ("unknown value type \"" ++ typeName ++ "\"")

def malformed (detail : String) : Outcome Value :=
  fail
    { reason := .invariantViolated
      message := "malformed keyword table: " ++ detail
      diagnostics := [Problem.malformedTable.diagnose (some [("detail", .text detail)])]
      recoverable := false
      context := none
      suggestions := none
      causes := [] }
    .unknown

end Outcome

end CommandWords
