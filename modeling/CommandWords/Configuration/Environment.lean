/-
This file reads settings from environment variables.
-/

import CommandWords.Configuration.Basic
import CommandWords.Fields
import CommandWords.Number.Decimal
import CommandWords.Text.Blank

namespace CommandWords.Configuration

/-- The environment gives variables their texts. -/
abbrev Environment := Fields String

def yesWords : List (List Char) := ["1".toList, "true".toList, "yes".toList, "on".toList]

def noWords : List (List Char) := ["0".toList, "false".toList, "no".toList, "off".toList]

/-- A word for yes or no may stand between blanks and in any letter case. No letter outside the
basic alphabet is the capital of a letter in these words. -/
def readBool? (text : String) : Option Bool :=
  let word := (Text.trim text.toList).map Char.toLower
  if word ∈ yesWords then some true
  else if word ∈ noWords then some false
  else none

/-- The digits at the start of a text. Nothing behind them counts. -/
def readDigits? (negative : Bool) (characters : List Char) : Option Number :=
  match characters.takeWhile Char.isDigit with
  | [] => none
  | digits => some (Number.ofDecimal negative (Number.ofDigits digits) 0)

/-- An integer may stand behind blanks and a sign. -/
def readInteger? (text : String) : Option Number :=
  match text.toList.dropWhile Text.isBlank with
  | '-' :: rest => readDigits? true rest
  | '+' :: rest => readDigits? false rest
  | characters => readDigits? false characters

/-- Variables that are missing or do not fit leave the standard settings. -/
def ofEnvironment (name : String) (environment : Environment) : Configuration :=
  let bool? (setting : String) : Option Bool :=
    (environment.lookup (name ++ setting)).bind readBool?
  let integer? (setting : String) : Option Number :=
    (environment.lookup (name ++ setting)).bind readInteger?
  standard.apply
    { lookup :=
        { exactByDefault := bool? "_EXACT"
          logLimit := integer? "_LOG_LIMIT"
          logEnabled := bool? "_LOG_ENABLED" }
      usage := { literalFirstWord := bool? "_LITERAL_FIRST_WORD" } }

end CommandWords.Configuration
