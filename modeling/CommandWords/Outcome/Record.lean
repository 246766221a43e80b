/-
This file writes outcomes as records. A part that is not given is left out of its record.
-/

import CommandWords.Outcome.Basic

namespace CommandWords

mutual

def Diagnostic.toJson : Diagnostic → Json
  | ⟨code, severity, message, data, related⟩ =>
      Json.ofOptions
        [("code", some (.text code)), ("severity", some (.text severity.word)),
          ("message", some (.text message)), ("data", data.map .object),
          ("related", relatedToJson related)]

def relatedToJson : Option (List Diagnostic) → Option Json
  | none => none
  | some related => some (.array (diagnosticsToJson related))

def diagnosticsToJson : List Diagnostic → List Json
  | [] => []
  | diagnostic :: rest => diagnostic.toJson :: diagnosticsToJson rest

end

/-- The record of a report holds the record of its cause. -/
def Report.toJson (report : Report Diagnostic) (cause : Option Json) : Json :=
  Json.ofOptions
    [("reason", some (.text report.reason.text)), ("message", some (.text report.message)),
      ("diagnostics", some (.array (diagnosticsToJson report.diagnostics))),
      ("recoverable", some (.bool report.recoverable)), ("context", report.context.map .object),
      ("suggestions", report.suggestions.map fun words => .array (words.map .text)),
      ("cause", cause)]

def Failure.toJson (failure : Failure Diagnostic) : Json :=
  failure.toReport.toJson
    (failure.causes.foldr (fun report cause => some (report.toJson cause)) none)

def Effort.toJson (effort : Effort) : Json :=
  Json.ofOptions
    [("comparisons", effort.comparisons.map .number), ("cached", effort.cached.map .bool)]

/-- A value without a record is left out. -/
def Outcome.toJson {Value : Type} (valueToJson : Value → Option Json) : Outcome Value → Json
  | .done value effort =>
      Json.ofOptions
        [("tag", some (.text "Done")), ("value", valueToJson value),
          ("meta", some effort.toJson)]
  | .fail failure effort =>
      Json.ofOptions
        [("tag", some (.text "Fail")), ("failure", some failure.toJson),
          ("meta", some effort.toJson)]

end CommandWords
