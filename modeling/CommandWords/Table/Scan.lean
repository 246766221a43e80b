/-
This file scans keywords for a key, which may be an abbreviation.
-/

import CommandWords.Table.Keywords

namespace CommandWords

structure Scan where
  /-- The position of the exact match, or else of the last abbreviated keyword. -/
  found : Option Nat
  exact : Bool
  /-- The abbreviated keywords before the scan ended. -/
  abbreviated : Nat
  comparisons : Nat
deriving DecidableEq, Repr

/-- A key abbreviates every keyword that begins with it. -/
def abbreviates (key keyword : String) : Bool := key.toList.isPrefixOf keyword.toList

namespace Scan

/-- An exact match ends the scan. Otherwise every keyword is visited. -/
def scanFrom (key : String) (position : Nat) (found : Option Nat) (abbreviated : Nat) :
    List String → Scan
  | [] => ⟨found, false, abbreviated, position⟩
  | keyword :: rest =>
      if keyword = key then ⟨some position, true, abbreviated, position + 1⟩
      else if abbreviates key keyword then
        scanFrom key (position + 1) (some position) (abbreviated + 1) rest
      else scanFrom key (position + 1) found abbreviated rest

/-- The empty key is compared with nothing. -/
def run (key : String) (keywords : List String) : Scan :=
  if key = "" then ⟨none, false, 0, 0⟩ else scanFrom key 0 none 0 keywords

/-- The position that a lookup takes. Abbreviations count unless exact matches are asked for. -/
def resolved? (result : Scan) (exactOnly : Bool) : Option Nat :=
  if result.exact || (!exactOnly && result.abbreviated == 1) then result.found else none

end Scan

end CommandWords
