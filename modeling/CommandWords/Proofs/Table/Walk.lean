/-
This file walks over a table by adding the stride to a number until it is no longer below the
length of the table. The sums round, but not as long as they name a slot, so the walk comes to an
end with the keywords of the table.
-/

import CommandWords.Proofs.Number.Counts
import CommandWords.Proofs.Number.Integers
import CommandWords.Proofs.Number.Vast
import CommandWords.Proofs.Table.Positions

namespace CommandWords

namespace Number

/-- A vast number is not below a natural number that is exact. -/
theorem Vast.lessThan_natural {number : Number} (vast : number.Vast) {value : Nat}
    (small : value ≤ twoPower 53) : number.lessThan (natural value) = false := by
  rcases vast with rfl | ⟨magnitude, rfl, large⟩
  · rfl
  · have reached : value * unit ≤ magnitude :=
      Nat.le_trans (Nat.mul_le_mul_right unit small) large
    have units : ¬ ((magnitude : Nat) : Int) < ((value * unit : Nat) : Int) := by omega
    simp only [lessThan, natural, compare?, signedUnits, Bool.false_eq_true, if_false]
    rw [beq_eq_false_iff_ne, Ne, Option.some.injEq, Int.compare_eq_lt]
    exact units

end Number

namespace Table

/-- The keywords that a walk finds from a place on, with those that it found before, if it ends
within some rounds. -/
def walkFrom (table : Table) (stride : Number) :
    Nat → Number → List String → Option (Outcome (List String))
  | 0, _, _ => none
  | rounds + 1, place, found =>
      if place.lessThan (.natural table.length) then
        match table.slotAt place with
        | .sentinel => some (.done found .unknown)
        | .other =>
            some (.malformed ("entry " ++ toString found.length ++ " at slot " ++ place.text ++
              " is not a string"))
        | .keyword text => walkFrom table stride rounds (place.add stride) (found ++ [text])
      else some (.done found .unknown)

/-- A walk begins at the first slot, if the stride is a stride. -/
def walk (table : Table) (stride : Number) (rounds : Nat) : Option (Outcome (List String)) :=
  if isStride stride then table.walkFrom stride rounds 0 []
  else some (.malformed ("stride must be a positive integer, got " ++ stride.text))

/-- A walk has come to an entry, or to a place so far away that no table has it. -/
def Reaches (place : Number) (distance ordinal : Nat) : Prop :=
  place = .natural (ordinal * distance) ∨ twoPower 53 ≤ ordinal * distance ∧ place.Vast

namespace Reaches

variable {table : Table} {place : Number} {distance ordinal : Nat}

theorem lessThan_length (reaches : Reaches place distance ordinal) :
    place.lessThan (.natural table.length) = decide (ordinal * distance < table.length) := by
  have limit : bound < twoPower 53 := by decide
  have room := table.bounded
  rcases reaches with rfl | ⟨far, vast⟩
  · exact Number.lessThan_natural _ _
  · have outside : ¬ ordinal * distance < table.length := by omega
    rw [vast.lessThan_natural (by omega), decide_eq_false outside]

theorem eq_natural (reaches : Reaches place distance ordinal)
    (inside : ordinal * distance < table.length) : place = .natural (ordinal * distance) := by
  have limit : bound < twoPower 53 := by decide
  have room := table.bounded
  rcases reaches with exact | ⟨far, _⟩
  · exact exact
  · omega

/-- From inside the table one more stride leads to the next entry. -/
theorem next (reaches : Reaches place distance ordinal)
    (inside : ordinal * distance < table.length) :
    Reaches (place.add (.natural distance)) distance (ordinal + 1) := by
  have sum : (ordinal + 1) * distance = ordinal * distance + distance := Nat.succ_mul _ _
  rw [reaches.eq_natural inside, Reaches, sum]
  by_cases small : ordinal * distance + distance < twoPower 53
  · exact .inl (Number.add_natural small)
  · have large := Nat.le_of_not_lt small
    refine .inr ⟨large, ?_⟩
    rw [Number.natural, Number.natural, Number.add_unsigned, ← Nat.add_mul]
    apply Number.vast_ofUnits Nat.one_pos
    rw [Nat.mul_one]
    exact Nat.mul_le_mul_right Number.unit large

end Reaches

/-- The outcome of a walk that found some keywords before it read the rest. -/
def concluded (found : List String) (distance : Nat) :
    Except Nat (List String) → Outcome (List String)
  | .ok rest => .done (found ++ rest) .unknown
  | .error ordinal =>
      .malformed ("entry " ++ toString ordinal ++ " at slot " ++ toString (ordinal * distance) ++
        " is not a string")

theorem concluded_map (found : List String) (text : String) (distance : Nat)
    (read : Except Nat (List String)) :
    concluded found distance (read.map (text :: ·)) =
      concluded (found ++ [text]) distance read := by
  cases read with
  | error ordinal => rfl
  | ok rest => simp only [Except.map, concluded, List.append_assoc, List.singleton_append]

theorem keywords_natural (table : Table) {distance : Nat} (positive : 0 < distance) :
    table.keywords (.natural distance) =
      concluded [] distance (table.keywordsFrom distance 0 (table.recordCount distance)) := by
  rw [keywords, distance?_eq_some.mpr ⟨rfl, positive⟩]
  dsimp only
  cases table.keywordsFrom distance 0 (table.recordCount distance) with
  | ok found => rfl
  | error ordinal => rfl

/-- With enough rounds left a walk reads what is left of the table. -/
theorem walkFrom_eq (table : Table) {distance : Nat} (positive : 0 < distance) {rounds : Nat}
    {place : Number} {found : List String} (reaches : Reaches place distance found.length)
    (enough : table.recordCount distance - found.length < rounds) :
    table.walkFrom (.natural distance) rounds place found =
      some (concluded found distance
        (table.keywordsFrom distance found.length
          (table.recordCount distance - found.length))) := by
  induction rounds generalizing place found with
  | zero => exact absurd enough (Nat.not_lt_zero _)
  | succ rounds inductionHypothesis =>
      have within := table.lt_recordCount positive found.length
      rw [walkFrom, reaches.lessThan_length]
      by_cases inside : found.length * distance < table.length
      · obtain ⟨left, counted⟩ : ∃ left, table.recordCount distance - found.length = left + 1 :=
          Nat.exists_eq_add_one.mpr (Nat.sub_pos_of_lt (within.mpr inside))
        have here := slot_lt_bound positive (within.mpr inside)
        have exact : found.length * distance ≤ twoPower 53 := by
          have limit : bound < twoPower 53 := by decide
          omega
        have slot : table.slotAt place = table.entry distance found.length := by
          rw [reaches.eq_natural inside, slotAt_natural table here, entry]
        rw [if_pos (decide_eq_true inside), slot, counted, keywordsFrom]
        cases table.entry distance found.length with
        | sentinel => simp only [concluded, List.append_nil]
        | other => simp only [concluded, reaches.eq_natural inside, Number.text_natural exact]
        | keyword text =>
            have length : (found ++ [text]).length = found.length + 1 := by
              rw [List.length_append, List.length_singleton]
            have rest : table.recordCount distance - (found ++ [text]).length = left := by omega
            have onward : Reaches (place.add (.natural distance)) distance
                (found ++ [text]).length := by
              rw [length]
              exact reaches.next inside
            simp only [concluded_map]
            rw [inductionHypothesis onward (by omega), rest, length]
      · have none_left : table.recordCount distance - found.length = 0 :=
          Nat.sub_eq_zero_of_le (Nat.le_of_not_lt (mt within.mp inside))
        rw [decide_eq_false inside, none_left, keywordsFrom, concluded, List.append_nil]
        rfl

theorem recordCount_le_length (table : Table) {distance : Nat} (positive : 0 < distance) :
    table.recordCount distance ≤ table.length := by
  apply Nat.le_of_not_lt
  intro more
  have inside := (table.lt_recordCount positive table.length).mp more
  have stretched : table.length ≤ table.length * distance :=
    Nat.le_mul_of_pos_right table.length positive
  omega

/-- A walk ends with the keywords of the table, after one more round than there are slots at the
latest. -/
theorem walk_eq (table : Table) (stride : Number) {rounds : Nat} (enough : table.length < rounds) :
    table.walk stride rounds = some (table.keywords stride) := by
  unfold walk
  split
  next valid =>
    obtain ⟨distance, rfl, positive⟩ := natural_of_isStride valid
    have count := table.recordCount_le_length positive
    have start : Reaches 0 distance ([] : List String).length := by
      left
      rw [List.length_nil, Nat.zero_mul, Number.natural_zero]
    rw [table.walkFrom_eq positive start (by rw [List.length_nil]; omega), List.length_nil,
      Nat.sub_zero, table.keywords_natural positive]
  next invalid =>
    have unnamed : distance? stride = none := by
      rwa [isStride, Option.not_isSome_iff_eq_none] at invalid
    rw [keywords, unnamed]

end Table

end CommandWords
