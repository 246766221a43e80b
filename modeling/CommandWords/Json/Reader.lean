/-
This file reads a value from a data text. The grammar is strict: no comments, no trailing commas,
no leading zeros and nothing behind the value. Each step takes its part from the front of the text
and leaves the rest.
-/

import CommandWords.Json.Basic
import CommandWords.Number.Decimal

namespace CommandWords.Json.Reader

def isBlank (character : Char) : Bool :=
  character = ' ' || character = '\t' || character = '\n' || character = '\x0d'

def skipBlanks (input : List Char) : List Char := input.dropWhile isBlank

/-- The rest of the text behind a fixed word. -/
def expect (word : List Char) (input : List Char) : Option (List Char) :=
  if word.isPrefixOf input then some (input.drop word.length) else none

def hexDigit? (character : Char) : Option Nat :=
  if character.isDigit then some (digitValueOf character '0')
  else if 'a' ≤ character ∧ character ≤ 'f' then some (10 + digitValueOf character 'a')
  else if 'A' ≤ character ∧ character ≤ 'F' then some (10 + digitValueOf character 'A')
  else none
where
  digitValueOf (character start : Char) : Nat := character.toNat - start.toNat

/-- Four hexadecimal digits write one unit. -/
def unit? : List Char → Option (Nat × List Char)
  | first :: second :: third :: fourth :: rest => do
      let high := 16 * (← hexDigit? first) + (← hexDigit? second)
      let low := 16 * (← hexDigit? third) + (← hexDigit? fourth)
      some (256 * high + low, rest)
  | _ => none

/-- The character that stands for a unit which is no character. -/
def replacement : Char := '\ufffd'

/-- Two surrogate units write one character. A surrogate that stands alone is replaced. -/
def escapedUnit (input : List Char) : Option (Char × List Char) := do
  let (first, rest) ← unit? input
  if 0xd800 ≤ first ∧ first < 0xdc00 then
    match rest with
    | '\\' :: 'u' :: behind =>
        let (second, further) ← unit? behind
        if 0xdc00 ≤ second ∧ second < 0xe000 then
          some (Char.ofNat (0x10000 + 0x400 * (first - 0xd800) + (second - 0xdc00)), further)
        else
          some (replacement, rest)
    | _ => some (replacement, rest)
  else if 0xdc00 ≤ first ∧ first < 0xe000 then some (replacement, rest)
  else some (Char.ofNat first, rest)

/-- The character behind a backslash. -/
def escaped : List Char → Option (Char × List Char)
  | '"' :: rest => some ('"', rest)
  | '\\' :: rest => some ('\\', rest)
  | '/' :: rest => some ('/', rest)
  | 'b' :: rest => some ('\x08', rest)
  | 'f' :: rest => some ('\x0c', rest)
  | 'n' :: rest => some ('\n', rest)
  | 'r' :: rest => some ('\x0d', rest)
  | 't' :: rest => some ('\t', rest)
  | 'u' :: rest => escapedUnit rest
  | _ => none

/-- The characters up to the closing quote. Control characters have to be escaped. -/
def characters (fuel : Nat) (input : List Char) : Option (List Char × List Char) :=
  match fuel, input with
  | 0, _ => none
  | _, [] => none
  | _, '"' :: rest => some ([], rest)
  | fuel + 1, '\\' :: rest => do
      let (character, behind) ← escaped rest
      let (tail, further) ← characters fuel behind
      some (character :: tail, further)
  | fuel + 1, character :: rest =>
      if character.toNat < 0x20 then none
      else do
        let (tail, further) ← characters fuel rest
        some (character :: tail, further)

def text (fuel : Nat) (input : List Char) : Option (String × List Char) := do
  let (content, rest) ← characters fuel input
  some (String.ofList content, rest)

/-- At least one decimal digit. -/
def digits (input : List Char) : Option (List Char × List Char) :=
  match input.takeWhile Char.isDigit with
  | [] => none
  | found => some (found, input.dropWhile Char.isDigit)

/-- The digits behind a decimal point, if there is a point. -/
def fraction : List Char → Option (List Char × List Char)
  | '.' :: rest => digits rest
  | input => some ([], input)

def signedDigits : List Char → Option (Int × List Char)
  | '-' :: rest => do
      let (found, behind) ← digits rest
      some (-(Number.ofDigits found : Int), behind)
  | '+' :: rest => do
      let (found, behind) ← digits rest
      some ((Number.ofDigits found : Int), behind)
  | rest => do
      let (found, behind) ← digits rest
      some ((Number.ofDigits found : Int), behind)

/-- The power of ten behind the letter e, if there is one. -/
def exponent : List Char → Option (Int × List Char)
  | [] => some (0, [])
  | letter :: rest =>
      if letter = 'e' || letter = 'E' then signedDigits rest else some (0, letter :: rest)

def number (input : List Char) : Option (Number × List Char) := do
  let negative := input.head? = some '-'
  let unsigned := if negative then input.drop 1 else input
  let (whole, rest) ← digits unsigned
  if 1 < whole.length ∧ whole.head? = some '0' then none
  else do
    let (places, rest) ← fraction rest
    let (power, rest) ← exponent rest
    let value := Number.ofDigits (whole ++ places)
    some (Number.ofDecimal negative value (power - places.length), rest)

mutual

def value (fuel : Nat) (input : List Char) : Option (Json × List Char) :=
  match fuel with
  | 0 => none
  | fuel + 1 =>
      match skipBlanks input with
      | '[' :: rest =>
          match skipBlanks rest with
          | ']' :: behind => some (.array [], behind)
          | inside => do
              let (found, behind) ← elements fuel inside
              some (.array found, behind)
      | '\x7b' :: rest =>
          match skipBlanks rest with
          | '\x7d' :: behind => some (.object [], behind)
          | inside => do
              let (found, behind) ← fields fuel inside
              some (.object (Fields.ofList found), behind)
      | '"' :: rest => (text fuel rest).map fun found => (.text found.1, found.2)
      | 'n' :: rest => (expect "ull".toList rest).map fun behind => (.null, behind)
      | 't' :: rest => (expect "rue".toList rest).map fun behind => (.bool true, behind)
      | 'f' :: rest => (expect "alse".toList rest).map fun behind => (.bool false, behind)
      | other => (number other).map fun found => (.number found.1, found.2)

/-- The elements up to the closing bracket. -/
def elements (fuel : Nat) (input : List Char) : Option (List Json × List Char) :=
  match fuel with
  | 0 => none
  | fuel + 1 => do
      let (first, rest) ← value fuel input
      match skipBlanks rest with
      | ']' :: behind => some ([first], behind)
      | ',' :: behind => do
          let (found, last) ← elements fuel behind
          some (first :: found, last)
      | _ => none

/-- The fields up to the closing brace. -/
def fields (fuel : Nat) (input : List Char) : Option (Fields Json × List Char) :=
  match fuel with
  | 0 => none
  | fuel + 1 =>
      match skipBlanks input with
      | '"' :: start => do
          let (name, rest) ← text fuel start
          match skipBlanks rest with
          | ':' :: behind => do
              let (content, further) ← value fuel behind
              match skipBlanks further with
              | '\x7d' :: last => some ([(name, content)], last)
              | ',' :: next => do
                  let (found, last) ← fields fuel next
                  some ((name, content) :: found, last)
              | _ => none
          | _ => none
      | _ => none

end

end Reader

/-- The value that a text writes, if the text follows the grammar. -/
def read? (source : String) : Option Json :=
  let input := source.toList
  match Reader.value (2 * input.length + 2) input with
  | some (found, rest) => if Reader.skipBlanks rest = [] then some found else none
  | none => none

end CommandWords.Json
