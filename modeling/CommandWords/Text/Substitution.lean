/-
This file replaces the first occurrence of a pattern in a text. Dollar signs in the replacement
stand for parts of the text.
-/

namespace CommandWords.Text

/-- The text before and after the first occurrence of a pattern. -/
def splitAtFirst? (pattern : List Char) : List Char → Option (List Char × List Char)
  | [] => if pattern = [] then some ([], []) else none
  | character :: rest =>
      if pattern.isPrefixOf (character :: rest) then
        some ([], (character :: rest).drop pattern.length)
      else
        (splitAtFirst? pattern rest).map fun parts => (character :: parts.1, parts.2)

/-- A dollar sign before a dollar sign, an ampersand, a backtick or an apostrophe stands for
itself, for the pattern, for the text before it or for the text after it. -/
def expand (pattern before after : List Char) : List Char → List Char
  | '$' :: '$' :: rest => '$' :: expand pattern before after rest
  | '$' :: '&' :: rest => pattern ++ expand pattern before after rest
  | '$' :: '\x60' :: rest => before ++ expand pattern before after rest
  | '$' :: '\x27' :: rest => after ++ expand pattern before after rest
  | character :: rest => character :: expand pattern before after rest
  | [] => []

def replaceFirst (text pattern replacement : List Char) : List Char :=
  match splitAtFirst? pattern text with
  | some (before, after) => before ++ expand pattern before after replacement ++ after
  | none => text

end CommandWords.Text
