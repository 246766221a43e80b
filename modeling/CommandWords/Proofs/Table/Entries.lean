/-
This file says exactly which entries of a table are read and what reading them gives: the keywords
up to the first sentinel, or a failure that names the stride or the first entry that is no keyword.
-/

import CommandWords.Proofs.Table.Walk

namespace CommandWords

namespace Number

/-- An integer from one on. -/
def IsPositiveInteger (number : Number) : Prop :=
  number.isInteger = true ∧ (1 : Number).atMost number = true

theorem atMost_finite (first second : Nat) (negative : Bool) :
    (finite false first).atMost (finite negative second) = true ↔
      (first : Int) ≤ signedUnits negative second := by
  simp only [atMost, lessThan, equals, compare?, signedUnits, Bool.or_eq_true, beq_iff_eq,
    Option.some.injEq, Int.compare_eq_lt, Int.compare_eq_eq, Bool.false_eq_true, if_false]
  omega

theorem one_eq_ofNat : (1 : Number) = ofNat 1 := rfl

theorem isPositiveInteger_iff {number : Number} :
    number.IsPositiveInteger ↔ ∃ value, number = natural value ∧ 0 < value := by
  have unit_pos := unit_pos
  rw [IsPositiveInteger, one_eq_ofNat, ofNat_eq_natural (by decide), natural]
  constructor
  · rintro ⟨whole, large⟩
    cases number with
    | nan => cases whole
    | infinite negative => cases whole
    | finite negative magnitude =>
        rw [atMost_finite] at large
        have unsigned : negative = false := by
          cases negative with
          | false => rfl
          | true =>
              simp only [signedUnits, if_true] at large
              omega
        subst unsigned
        obtain ⟨value, product⟩ := Nat.dvd_of_mod_eq_zero (beq_iff_eq.mp whole)
        rw [Nat.mul_comm] at product
        refine ⟨value, by rw [product, natural], ?_⟩
        simp only [signedUnits, Bool.false_eq_true, if_false] at large
        apply Nat.pos_of_ne_zero
        rintro rfl
        omega
  · rintro ⟨value, rfl, positive⟩
    refine ⟨beq_iff_eq.mpr (Nat.mul_mod_left value unit), ?_⟩
    have scaled : 1 * unit ≤ value * unit := Nat.mul_le_mul_right unit positive
    rw [natural, atMost_finite]
    simp only [signedUnits, Bool.false_eq_true, if_false]
    omega

end Number

namespace Table

variable {table : Table} {stride : Number} {distance ordinal : Nat}

/-- An entry counts if it stands in the table and no sentinel stands in an entry up to it. -/
def Counts (table : Table) (distance ordinal : Nat) : Prop :=
  ordinal * distance < table.length ∧
    ∀ earlier, earlier ≤ ordinal → table.entry distance earlier ≠ .sentinel

/-- The first entry that is neither a keyword nor a sentinel nor behind one. -/
structure Misplaced (table : Table) (distance ordinal : Nat) : Prop where
  counts : table.Counts distance ordinal
  other : table.entry distance ordinal = .other
  first : ∀ earlier, earlier < ordinal → ∃ text, table.entry distance earlier = .keyword text

/-- What the entries of a table give. -/
inductive Reading (table : Table) (stride : Number) : Outcome (List String) → Prop
  | unreadable (invalid : ¬ stride.IsPositiveInteger) :
      Reading table stride
        (.malformed ("stride must be a positive integer, got " ++ stride.text))
  | misplaced {distance ordinal : Nat} (equal : stride = .natural distance)
      (positive : 0 < distance) (misplaced : table.Misplaced distance ordinal) :
      Reading table stride
        (.malformed ("entry " ++ toString ordinal ++ " at slot " ++
          toString (ordinal * distance) ++ " is not a string"))
  | whole {distance : Nat} {keywords : List String} (equal : stride = .natural distance)
      (positive : 0 < distance)
      (every : ∀ ordinal, table.Counts distance ordinal →
        ∃ text, table.entry distance ordinal = .keyword text)
      (value : ∀ ordinal text, keywords[ordinal]? = some text ↔
        table.Counts distance ordinal ∧ table.entry distance ordinal = .keyword text) :
      Reading table stride (.done keywords .unknown)

/-- The entries that count are those of the keywords. -/
theorem Fills.counts_iff {keywords : List String} (positive : 0 < distance)
    (fills : table.Fills distance 0 (table.recordCount distance) keywords) :
    table.Counts distance ordinal ↔ ordinal < keywords.length := by
  have inside := table.lt_recordCount positive ordinal
  constructor
  · rintro ⟨within, unended⟩
    apply Nat.lt_of_not_le
    intro beyond
    rcases fills.ended with whole | ⟨_, sentinel⟩
    · exact absurd (inside.mpr within) (by omega)
    · rw [Nat.zero_add] at sentinel
      exact unended keywords.length beyond sentinel
  · intro read
    refine ⟨inside.mp (Nat.lt_of_lt_of_le read fills.length_le), ?_⟩
    intro earlier before sentinel
    have written := fills.entries earlier (Nat.lt_of_le_of_lt before read)
    rw [Nat.zero_add, sentinel] at written
    cases written

theorem Fills.reading {keywords : List String} (positive : 0 < distance)
    (fills : table.Fills distance 0 (table.recordCount distance) keywords) :
    table.Reading (.natural distance) (.done keywords .unknown) := by
  have entries (ordinal : Nat) (inside : ordinal < keywords.length) :
      table.entry distance ordinal = .keyword keywords[ordinal] := by
    rw [← fills.entries ordinal inside, Nat.zero_add]
  refine .whole rfl positive ?_ ?_
  · intro ordinal counts
    exact ⟨_, entries ordinal ((fills.counts_iff positive).mp counts)⟩
  · intro ordinal text
    rw [fills.counts_iff positive, List.getElem?_eq_some_iff]
    constructor
    · rintro ⟨inside, rfl⟩
      exact ⟨inside, entries ordinal inside⟩
    · rintro ⟨inside, written⟩
      exact ⟨inside, Slot.keyword.inj ((entries ordinal inside).symm.trans written)⟩

/-- Reading fails at the first entry that is neither a keyword nor a sentinel. -/
theorem keywordsFrom_eq_error {records misplaced : Nat}
    (failed : table.keywordsFrom distance ordinal records = .error misplaced) :
    ordinal ≤ misplaced ∧ misplaced < ordinal + records ∧
      table.entry distance misplaced = .other ∧
        ∀ earlier, ordinal ≤ earlier → earlier < misplaced →
          ∃ text, table.entry distance earlier = .keyword text := by
  induction records generalizing ordinal with
  | zero => cases failed
  | succ records inductionHypothesis =>
      rw [keywordsFrom] at failed
      cases here : table.entry distance ordinal with
      | sentinel =>
          rw [here] at failed
          cases failed
      | other =>
          rw [here] at failed
          obtain rfl := Except.error.inj failed
          exact ⟨Nat.le_refl _, by omega, here, fun earlier from_ before => by omega⟩
      | keyword text =>
          simp only [here] at failed
          cases rest : table.keywordsFrom distance (ordinal + 1) records with
          | ok found =>
              rw [rest] at failed
              cases failed
          | error other =>
              rw [rest] at failed
              obtain rfl := Except.error.inj failed
              obtain ⟨above, below, there, before⟩ := inductionHypothesis rest
              refine ⟨by omega, by omega, there, ?_⟩
              intro earlier from_ until_
              rcases Nat.eq_or_lt_of_le from_ with rfl | later
              · exact ⟨text, here⟩
              · exact before earlier later until_

theorem misplaced_of_error (positive : 0 < distance)
    (failed : table.keywordsFrom distance 0 (table.recordCount distance) = .error ordinal) :
    table.Misplaced distance ordinal := by
  obtain ⟨_, inside, other, before⟩ := keywordsFrom_eq_error failed
  rw [Nat.zero_add] at inside
  refine ⟨⟨(table.lt_recordCount positive ordinal).mp inside, ?_⟩, other, ?_⟩
  · intro earlier upTo sentinel
    rcases Nat.eq_or_lt_of_le upTo with rfl | lower
    · cases other.symm.trans sentinel
    · obtain ⟨text, written⟩ := before earlier (Nat.zero_le _) lower
      cases written.symm.trans sentinel
  · intro earlier lower
    exact before earlier (Nat.zero_le _) lower

theorem reading_keywords (table : Table) (stride : Number) :
    table.Reading stride (table.keywords stride) := by
  by_cases valid : stride.IsPositiveInteger
  · obtain ⟨distance, rfl, positive⟩ := Number.isPositiveInteger_iff.mp valid
    rw [table.keywords_natural positive]
    cases read : table.keywordsFrom distance 0 (table.recordCount distance) with
    | ok found => exact (keywordsFrom_eq_ok_iff.mp read).reading positive
    | error ordinal => exact .misplaced rfl positive (misplaced_of_error positive read)
  · have unnamed : distance? stride = none := by
      rw [Option.eq_none_iff_forall_ne_some]
      intro distance named
      exact valid (Number.isPositiveInteger_iff.mpr ⟨distance, distance?_eq_some.mp named⟩)
    rw [keywords, unnamed]
    exact .unreadable valid

theorem Misplaced.unique {first second : Nat} (one : table.Misplaced distance first)
    (other : table.Misplaced distance second) : first = second := by
  rcases Nat.lt_trichotomy first second with before | same | after
  · obtain ⟨text, written⟩ := other.first first before
    cases one.other.symm.trans written
  · exact same
  · obtain ⟨text, written⟩ := one.first second after
    cases other.other.symm.trans written

theorem Reading.unique {first second : Outcome (List String)} (one : table.Reading stride first)
    (other : table.Reading stride second) : first = second := by
  have valid {distance : Nat} (equal : stride = .natural distance) (positive : 0 < distance) :
      stride.IsPositiveInteger := Number.isPositiveInteger_iff.mpr ⟨distance, equal, positive⟩
  cases one with
  | unreadable invalid =>
      cases other with
      | unreadable => rfl
      | misplaced equal positive => exact absurd (valid equal positive) invalid
      | whole equal positive => exact absurd (valid equal positive) invalid
  | misplaced equal positive misplaced =>
      cases other with
      | unreadable invalid => exact absurd (valid equal positive) invalid
      | misplaced also _ found =>
          obtain rfl := Number.natural_injective (equal.symm.trans also)
          rw [misplaced.unique found]
      | whole also _ every =>
          obtain rfl := Number.natural_injective (equal.symm.trans also)
          obtain ⟨text, written⟩ := every _ misplaced.counts
          cases misplaced.other.symm.trans written
  | whole equal positive every value =>
      cases other with
      | unreadable invalid => exact absurd (valid equal positive) invalid
      | misplaced also _ misplaced =>
          obtain rfl := Number.natural_injective (equal.symm.trans also)
          obtain ⟨text, written⟩ := every _ misplaced.counts
          cases misplaced.other.symm.trans written
      | whole also _ _ found =>
          obtain rfl := Number.natural_injective (equal.symm.trans also)
          congr 1
          apply List.ext_getElem?
          intro ordinal
          apply Option.ext
          intro text
          rw [value, found]

/-- Reading looks at nothing but the entries. -/
theorem keywordsFrom_congr {first second : Table}
    (same : ∀ ordinal, first.entry distance ordinal = second.entry distance ordinal)
    (ordinal records : Nat) :
    first.keywordsFrom distance ordinal records = second.keywordsFrom distance ordinal records := by
  induction records generalizing ordinal with
  | zero => rfl
  | succ records inductionHypothesis =>
      rw [keywordsFrom, keywordsFrom, same, inductionHypothesis]

theorem keywords_congr {first second : Table} (length : first.length = second.length)
    (same : ∀ distance ordinal, stride = .natural distance →
      first.entry distance ordinal = second.entry distance ordinal) :
    first.keywords stride = second.keywords stride := by
  unfold keywords
  split
  next => rfl
  next distance named =>
    obtain ⟨equal, _⟩ := distance?_eq_some.mp named
    have entries := fun ordinal => same distance ordinal equal
    rw [recordCount, length, keywordsFrom_congr entries 0, ← recordCount]

/-- The keywords of a table are those of the entries that count. Reading them by adding up strides
ends, succeeds exactly if all these entries are keywords, and else names the stride or the first
entry that is none. The other slots have no part in it. -/
theorem keywords_reads_entries (table : Table) (stride : Number) :
    (∀ rounds, table.length < rounds →
      table.walk stride rounds = some (table.keywords stride)) ∧
    (∀ outcome, table.keywords stride = outcome ↔ table.Reading stride outcome) ∧
    ((table.keywords stride).isDone = true ↔
      stride.IsPositiveInteger ∧ ∀ distance ordinal, stride = .natural distance →
        table.Counts distance ordinal → ∃ text, table.entry distance ordinal = .keyword text) ∧
    (∀ failure effort, table.keywords stride = .fail failure effort →
      failure.reason = .invariantViolated) ∧
    ∀ other : Table, other.length = table.length →
      (∀ distance ordinal, stride = .natural distance →
        other.entry distance ordinal = table.entry distance ordinal) →
      other.keywords stride = table.keywords stride := by
  have reading := table.reading_keywords stride
  refine ⟨fun rounds => table.walk_eq stride, ?_, ?_, ?_, fun other => keywords_congr⟩
  · intro outcome
    constructor
    · rintro rfl
      exact reading
    · exact reading.unique
  · generalize table.keywords stride = outcome at reading
    cases reading with
    | unreadable invalid => simp [Outcome.malformed, Outcome.isDone, invalid]
    | misplaced equal positive misplaced =>
        refine ⟨fun done => absurd done Bool.false_ne_true, ?_⟩
        rintro ⟨_, every⟩
        obtain ⟨text, written⟩ := every _ _ equal misplaced.counts
        cases misplaced.other.symm.trans written
    | whole equal positive every =>
        refine ⟨fun _ => ⟨Number.isPositiveInteger_iff.mpr ⟨_, equal, positive⟩, ?_⟩, fun _ => rfl⟩
        intro distance ordinal also counts
        obtain rfl := Number.natural_injective (equal.symm.trans also)
        exact every ordinal counts
  · intro failure effort failed
    rw [failed] at reading
    cases reading with
    | unreadable => rfl
    | misplaced => rfl

/-- The slots between the entries need not hold keywords. -/
example :
    ((ofSlots [.keyword "a", .other, .keyword "b", .sentinel, .sentinel]).keywords
      2).toExcept.toOption = some ["a", "b"] := by
  decide +kernel

end Table

end CommandWords
