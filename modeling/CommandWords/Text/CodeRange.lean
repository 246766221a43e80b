/-
This file defines ranges of character codes, from which the tables of character classes are made.
-/

namespace CommandWords.Text

/-- The range holds every code from the first to the last one. -/
structure CodeRange where
  first : Nat
  last : Nat
deriving DecidableEq, Repr

def CodeRange.contains (range : CodeRange) (code : Nat) : Bool :=
  range.first ≤ code && code ≤ range.last

/-- Whether a character belongs to a class that is listed by its ranges. -/
def isIn (ranges : List CodeRange) (character : Char) : Bool :=
  ranges.any fun range => range.contains character.toNat

end CommandWords.Text
