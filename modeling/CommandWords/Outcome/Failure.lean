/-
This file defines failures. A failure carries the failures that caused it, from the latest to the
first one.
-/

import CommandWords.Outcome.Diagnostic

namespace CommandWords

inductive Reason where
  | noMatch
  | ambiguous
  | unsupportedConversion
  | unknownType
  | invariantViolated
  | custom (name : String)
deriving DecidableEq, Repr

def Reason.text : Reason → String
  | noMatch => "no-match"
  | ambiguous => "ambiguous"
  | unsupportedConversion => "unsupported-conversion"
  | unknownType => "unknown-type"
  | invariantViolated => "invariant-violated"
  | custom name => "custom:" ++ name

/-- A report is one failure without its causes. Its findings are diagnostics or references to
diagnostics, and two references are equal when they refer to the same diagnostic. -/
structure Report (Finding : Type) where
  reason : Reason
  message : String
  diagnostics : List Finding
  recoverable : Bool
  context : Option (Fields Json)
  suggestions : Option (List String)
deriving Repr

def Report.map {Finding Other : Type} (function : Finding → Other) (report : Report Finding) :
    Report Other :=
  { report with diagnostics := report.diagnostics.map function }

structure Failure (Finding : Type) extends Report Finding where
  causes : List (Report Finding)
deriving Repr

namespace Failure

variable {Finding : Type}

/-- The reports of a failure, from the outermost to the innermost. -/
def reports (failure : Failure Finding) : List (Report Finding) :=
  failure.toReport :: failure.causes

def map {Other : Type} (function : Finding → Other) (failure : Failure Finding) :
    Failure Other :=
  ⟨failure.toReport.map function, failure.causes.map (Report.map function)⟩

def cause? (failure : Failure Finding) : Option (Failure Finding) :=
  match failure.causes with
  | [] => none
  | report :: rest => some ⟨report, rest⟩

/-- The wrapped failure becomes the cause. New context wins over old context. -/
def wrap (failure : Failure Finding) (message : String) (context : Option (Fields Json)) :
    Failure Finding :=
  { failure with
    message
    context := some (Fields.override (failure.context.getD []) (context.getD []))
    causes := failure.reports }

def hasReason (failure : Failure Finding) (reason : Reason) : Bool :=
  failure.reason == reason

/-- The findings that were not seen before, each one once, and all that are seen afterwards. -/
def collectNew [DecidableEq Finding] (seen : List Finding) :
    List Finding → List Finding × List Finding
  | [] => ([], seen)
  | finding :: rest =>
      if finding ∈ seen then collectNew seen rest
      else
        let (collected, seenAfter) := collectNew (seen ++ [finding]) rest
        (finding :: collected, seenAfter)

/-- The new findings of several reports, one report after another. -/
def collectReports [DecidableEq Finding] (seen : List Finding) :
    List (Report Finding) → List Finding × List Finding
  | [] => ([], seen)
  | report :: rest =>
      let (collected, seenBetween) := collectNew seen report.diagnostics
      let (further, seenAfter) := collectReports seenBetween rest
      (collected ++ further, seenAfter)

def findings [DecidableEq Finding] (failure : Failure Finding) (seen : List Finding) :
    List Finding × List Finding :=
  collectReports seen failure.reports

end Failure

end CommandWords
