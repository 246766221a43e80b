/-
This file writes a value as a data text without blanks. Numbers that are not finite are written as
null.
-/

import CommandWords.Json.Basic
import CommandWords.Number.Text

namespace CommandWords.Json

def hexCharacter (digit : Nat) : Char := Nat.digitChar (digit % 16)

/-- Quotes, backslashes and control characters are escaped. -/
def writeCharacter (character : Char) : List Char :=
  if character = '"' then ['\\', '"']
  else if character = '\\' then ['\\', '\\']
  else if character = '\x08' then ['\\', 'b']
  else if character = '\x0c' then ['\\', 'f']
  else if character = '\n' then ['\\', 'n']
  else if character = '\x0d' then ['\\', 'r']
  else if character = '\t' then ['\\', 't']
  else if character.toNat < 0x20 then
    ['\\', 'u', '0', '0', hexCharacter (character.toNat / 16), hexCharacter character.toNat]
  else [character]

def writeText (value : String) : String :=
  String.ofList ('"' :: value.toList.flatMap writeCharacter ++ ['"'])

def writeNumber : Number → String
  | .finite negative magnitude => (Number.finite negative magnitude).text
  | _ => "null"

mutual

def write : Json → String
  | null => "null"
  | bool value => if value then "true" else "false"
  | number value => writeNumber value
  | text value => writeText value
  | array elements => "[" ++ ",".intercalate (writeElements elements) ++ "]"
  | object fields => "\x7b" ++ ",".intercalate (writeFields fields) ++ "\x7d"

def writeElements : List Json → List String
  | [] => []
  | element :: rest => write element :: writeElements rest

def writeFields : List (String × Json) → List String
  | [] => []
  | (name, value) :: rest => (writeText name ++ ":" ++ write value) :: writeFields rest

end

end CommandWords.Json
