/-
This file quotes words so that a list reader takes each of them back as one element. A word is
written as it is, inside braces, or with backslashes.
-/

namespace CommandWords.ListElement

/-- The flags say how a word has to be quoted. -/
structure Flags where
  /-- The word holds something that a list reader must not see. -/
  wantsBraces : Bool
  /-- Braces cannot hold the word. -/
  refusesBraces : Bool
  /-- The braces of the word itself do not balance. -/
  unbalanced : Bool
deriving DecidableEq, Repr, Inhabited

def Flags.plain : Flags := ⟨false, false, false⟩

def Flags.braced (flags : Flags) : Flags := { flags with wantsBraces := true }

def Flags.broken (flags : Flags) : Flags :=
  { flags with refusesBraces := true, unbalanced := true }

def Flags.needQuotes (flags : Flags) : Bool := flags.wantsBraces || flags.refusesBraces

/-- The letter that stands behind a backslash for a control character. -/
def controlLetter? (character : Char) : Option Char :=
  if character = '\x0c' then some 'f'
  else if character = '\n' then some 'n'
  else if character = '\x0d' then some 'r'
  else if character = '\t' then some 't'
  else if character = '\x0b' then some 'v'
  else none

def isSpace (character : Char) : Bool := character = ' ' || (controlLetter? character).isSome

/-- These characters split a list or start a substitution. -/
def isActive (character : Char) : Bool :=
  character = '[' || character = '$' || character = ';' || isSpace character

/-- These characters take a backslash outside braces. -/
def takesBackslash (character : Char) : Bool :=
  character = ']' || character = '[' || character = '$' || character = ';' ||
    character = ' ' || character = '\\' || character = '"'

def isBrace (character : Char) : Bool := character = '\x7b' || character = '\x7d'

/-- The scan counts open braces. A backslash hides the character behind it, but a hidden line end
or a backslash at the end of the word cannot stand in braces. -/
def scanFrom (depth : Int) (flags : Flags) : List Char → Flags
  | [] => if depth = 0 then flags else flags.broken
  | ['\\'] => flags.broken
  | '\\' :: hidden :: rest =>
      if hidden = '\n' then scanFrom depth flags.broken (hidden :: rest)
      else scanFrom depth flags.braced rest
  | character :: rest =>
      if character = '\x7b' then scanFrom (depth + 1) flags rest
      else if character = '\x7d' then
        scanFrom (depth - 1) (if depth - 1 < 0 then flags.broken else flags) rest
      else if isActive character then scanFrom depth flags.braced rest
      else scanFrom depth flags rest

/-- An opening brace or quote at the start of a word opens a quoted word. -/
def opensWord (character : Char) : Bool := character = '\x7b' || character = '"'

def scanCharacters : List Char → Flags
  | [] => Flags.plain.braced
  | first :: rest =>
      scanFrom 0 (if opensWord first then Flags.plain.braced else Flags.plain) (first :: rest)

def escapeCharacter (unbalanced : Bool) (character : Char) : List Char :=
  match controlLetter? character with
  | some letter => ['\\', letter]
  | none =>
      if takesBackslash character || (unbalanced && isBrace character) then ['\\', character]
      else [character]

/-- An opening brace at the start is always escaped, and then so is every other brace. -/
def escapeCharacters (unbalanced : Bool) : List Char → List Char
  | '\x7b' :: rest => '\\' :: '\x7b' :: rest.flatMap (escapeCharacter true)
  | characters => characters.flatMap (escapeCharacter unbalanced)

def braceCharacters (characters : List Char) : List Char :=
  '\x7b' :: characters ++ ['\x7d']

def convertCharacters (characters : List Char) (flags : Flags) : List Char :=
  if characters = [] || (flags.wantsBraces && !flags.refusesBraces) then
    braceCharacters characters
  else
    escapeCharacters flags.unbalanced characters

def quoteCharacters (characters : List Char) : List Char :=
  let flags := scanCharacters characters
  if flags.needQuotes then convertCharacters characters flags else characters

/-- The flags of a word. -/
def scan (word : String) : Flags := scanCharacters word.toList

/-- The written form of a word under any flags. -/
def convert (word : String) (flags : Flags) : String :=
  String.ofList (convertCharacters word.toList flags)

def needsQuotes (word : String) : Bool := (scan word).needQuotes

/-- The written form of a word under its own flags. -/
def quote (word : String) : String := String.ofList (quoteCharacters word.toList)

end CommandWords.ListElement
