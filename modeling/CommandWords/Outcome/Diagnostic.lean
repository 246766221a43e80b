/-
This file defines diagnostics, the single findings behind a failure.
-/

import CommandWords.Json.Basic

namespace CommandWords

inductive Severity where
  | error
  | warning
  | info
  | hint
deriving DecidableEq, Repr

def Severity.word : Severity → String
  | error => "error"
  | warning => "warning"
  | info => "info"
  | hint => "hint"

structure Diagnostic where
  code : String
  severity : Severity
  message : String
  data : Option (Fields Json)
  related : Option (List Diagnostic)
deriving Repr

end CommandWords
