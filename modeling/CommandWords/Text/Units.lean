/-
This file orders strings by their 16 bit units. Characters above the basic plane are written with
two surrogate units, so they come before the last characters of the basic plane.
-/

namespace CommandWords.Text

/-- The units of one character. -/
def units (character : Char) : List Nat :=
  let code := character.toNat
  if code < 0x10000 then [code]
  else [0xd800 + (code - 0x10000) / 0x400, 0xdc00 + (code - 0x10000) % 0x400]

def unitsOf (text : String) : List Nat := text.toList.flatMap units

/-- Whether a string does not come after another one. -/
def atMost (first second : String) : Bool := !(unitsOf second).lex (unitsOf first) Nat.blt

end CommandWords.Text
