/-
This file shows that the text of a number is a numeral, made of letters, digits, signs and a point.
-/

import CommandWords.Number.Text
import Mathlib.Data.Nat.Digits.Defs

namespace CommandWords.Number

def Numeral (characters : List Char) : Prop :=
  ∀ character ∈ characters, character.isAlphanum ∨ character ∈ ['.', '+', '-']

instance (characters : List Char) : Decidable (Numeral characters) :=
  List.decidableBAll _ characters

theorem numeral_nil : Numeral [] := by
  simp [Numeral]

theorem numeral_cons {character : Char} {rest : List Char} :
    Numeral (character :: rest) ↔
      (character.isAlphanum ∨ character ∈ ['.', '+', '-']) ∧ Numeral rest :=
  List.forall_mem_cons

theorem numeral_append {first second : List Char} :
    Numeral (first ++ second) ↔ Numeral first ∧ Numeral second :=
  List.forall_mem_append

theorem Numeral.of_subset {part whole : List Char} (numeral : Numeral whole)
    (within : part ⊆ whole) : Numeral part :=
  fun character member => numeral character (within member)

theorem numeral_toDigits (value : Nat) : Numeral (Nat.toDigits 10 value) := by
  intro character member
  have digit : character.isDigit = true :=
    Nat.isDigit_of_mem_toDigits (by decide) (by decide) member
  simp [Char.isAlphanum, digit]

theorem numeral_replicate (count : Nat) : Numeral (List.replicate count '0') := by
  intro character member
  exact List.eq_of_mem_replicate member ▸ .inl (by decide)

theorem numeral_shortestFrom (magnitude : Nat) (point : Int) (attempts count : Nat) :
    Numeral (shortestFrom magnitude point attempts count).digits := by
  induction attempts generalizing count with
  | zero => exact numeral_toDigits magnitude
  | succ attempts inductionHypothesis =>
      rw [shortestFrom]
      split
      next multiple _ =>
        apply (numeral_toDigits multiple).of_subset
        intro character member
        have kept := (List.dropWhile_sublist _).subset (List.mem_reverse.mp member)
        exact List.mem_reverse.mp kept
      next => exact inductionHypothesis (count + 1)

theorem Decimal.numeral_layout {decimal : Decimal} (digits : Numeral decimal.digits) :
    Numeral decimal.layout := by
  have taken (count : Nat) : Numeral (decimal.digits.take count) :=
    digits.of_subset (List.take_subset count _)
  have dropped (count : Nat) : Numeral (decimal.digits.drop count) :=
    digits.of_subset (List.drop_subset count _)
  have power (exponent : Int) :
      Numeral ('e' :: (if exponent < 0 then '-' else '+') :: Nat.toDigits 10 exponent.natAbs) := by
    rw [numeral_cons, numeral_cons]
    refine ⟨by decide, ?_, numeral_toDigits _⟩
    split <;> decide
  unfold layout
  dsimp only
  split
  next => exact numeral_append.mpr ⟨digits, numeral_replicate _⟩
  split
  next => exact numeral_append.mpr ⟨taken _, numeral_cons.mpr ⟨by decide, dropped _⟩⟩
  split
  next =>
    rw [numeral_append, numeral_cons, numeral_cons]
    exact ⟨⟨by decide, by decide, numeral_replicate _⟩, digits⟩
  next =>
    rw [numeral_append, numeral_append]
    refine ⟨⟨taken 1, ?_⟩, power _⟩
    split
    next => exact numeral_nil
    next => exact numeral_cons.mpr ⟨by decide, dropped 1⟩

theorem numeral_magnitudeText (magnitude : Nat) : Numeral (magnitudeText magnitude).toList := by
  unfold magnitudeText
  split
  next =>
    have written : (toString (magnitude / unit)).toList = Nat.toDigits 10 (magnitude / unit) :=
      Nat.toList_repr
    exact written ▸ numeral_toDigits _
  next =>
    rw [String.toList_ofList]
    exact Decimal.numeral_layout (numeral_shortestFrom magnitude _ _ _)

theorem numeral_text (number : Number) : Numeral number.text.toList := by
  have signed (text : String) (numeral : Numeral text.toList) : Numeral ("-" ++ text).toList := by
    rw [String.toList_append]
    exact numeral_cons.mpr ⟨by decide, numeral⟩
  cases number with
  | nan => decide
  | infinite negative => cases negative <;> decide
  | finite negative magnitude =>
      rw [text]
      split
      next => exact signed _ (numeral_magnitudeText magnitude)
      next => exact numeral_magnitudeText magnitude

end CommandWords.Number
