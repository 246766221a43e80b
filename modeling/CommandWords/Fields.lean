/-
This file defines lists of named values that keep the order in which names first appear.
-/

namespace CommandWords

abbrev Fields (Value : Type) := List (String × Value)

namespace Fields

variable {Value : Type}

/-- A new value under an old name takes the place of the old one. -/
def insert (name : String) (value : Value) : Fields Value → Fields Value
  | [] => [(name, value)]
  | (other, old) :: rest =>
      if other = name then (name, value) :: rest else (other, old) :: insert name value rest

/-- A field of the second list wins over a field of the first. -/
def override (base fields : Fields Value) : Fields Value :=
  fields.foldl (fun merged field => insert field.1 field.2 merged) base

/-- Among fields of one name the last value counts. -/
def ofList (fields : List (String × Value)) : Fields Value := override [] fields

theorem lookup_insert_self (name : String) (value : Value) (fields : Fields Value) :
    (insert name value fields).lookup name = some value := by
  induction fields with
  | nil => rw [insert, List.lookup_cons_self]
  | cons field rest inductionHypothesis =>
      obtain ⟨other, old⟩ := field
      rw [insert]
      split
      next same => rw [List.lookup_cons_self]
      next same =>
        have different : (name == other) = false := beq_false_of_ne (Ne.symm same)
        rw [List.lookup_cons, different]
        exact inductionHypothesis

theorem lookup_insert_other {name other : String} (different : other ≠ name) (value : Value)
    (fields : Fields Value) : (insert name value fields).lookup other = fields.lookup other := by
  have unequal : (other == name) = false := beq_false_of_ne different
  induction fields with
  | nil => rw [insert, List.lookup_cons, unequal]
  | cons field rest inductionHypothesis =>
      obtain ⟨found, old⟩ := field
      rw [insert]
      split
      next same =>
        subst same
        rw [List.lookup_cons, List.lookup_cons, unequal]
      next same =>
        rw [List.lookup_cons, List.lookup_cons, inductionHypothesis]

end Fields

end CommandWords
