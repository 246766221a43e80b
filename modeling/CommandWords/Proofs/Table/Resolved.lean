/-
This file says which keyword a key means, itself or else the only one that begins with it, and that
a scan resolves a key to the first position of this keyword.
-/

import CommandWords.Table.Scan

namespace CommandWords

theorem abbreviates_iff {key keyword : String} :
    abbreviates key keyword = true ↔ key.toList <+: keyword.toList := by
  simp [abbreviates]

theorem abbreviates_self (key : String) : abbreviates key key = true :=
  abbreviates_iff.mpr List.prefix_rfl

/-- Only the empty key abbreviates the empty keyword. -/
theorem eq_empty_of_abbreviates {key : String} (shortens : abbreviates key "" = true) :
    key = "" := by
  have inside := abbreviates_iff.mp shortens
  have empty : key.toList = [] := List.prefix_nil.mp inside
  exact String.toList_inj.mp empty

/-- The only entry of a list that passes a test is the first one that does. -/
theorem findIdx_of_single {test : String → Bool} {keywords : List String} {keyword : String}
    (single : keywords.filter test = [keyword]) :
    keywords.findIdx test = keywords.idxOf keyword := by
  induction keywords with
  | nil => cases single
  | cons first rest inductionHypothesis =>
      cases passes : test first with
      | true =>
          rw [List.filter_cons_of_pos passes] at single
          obtain rfl := (List.cons.inj single).1
          rw [List.findIdx_cons, passes, List.idxOf_cons_self]
          rfl
      | false =>
          rw [List.filter_cons_of_neg (by simp [passes])] at single
          have found : keyword ∈ rest.filter test := by simp [single]
          have different : first ≠ keyword := by
            rintro rfl
            have also := (List.mem_filter.mp found).2
            rw [passes] at also
            cases also
          rw [List.findIdx_cons, passes, List.idxOf_cons, beq_false_of_ne different,
            inductionHypothesis single]

namespace Scan

/-- The first keyword that equals the key ends the scan. -/
theorem scanFrom_member {key : String} {keywords : List String} (member : key ∈ keywords)
    (position : Nat) (found : Option Nat) (abbreviated : Nat) :
    (scanFrom key position found abbreviated keywords).exact = true ∧
      (scanFrom key position found abbreviated keywords).found =
        some (position + keywords.idxOf key) := by
  induction keywords generalizing position found abbreviated with
  | nil => cases member
  | cons keyword rest inductionHypothesis =>
      by_cases same : keyword = key
      · simp [scanFrom, same]
      · have later : key ∈ rest := by
          rcases List.mem_cons.mp member with equal | inside
          · exact absurd equal.symm same
          · exact inside
        have moved : position + (keyword :: rest).idxOf key =
            position + 1 + rest.idxOf key := by
          rw [List.idxOf_cons, beq_false_of_ne same, cond_false]
          omega
        rw [moved, scanFrom, if_neg same]
        split
        · exact inductionHypothesis later _ _ _
        · exact inductionHypothesis later _ _ _

/-- A scan without an exact match visits every keyword and counts the abbreviated ones. -/
theorem scanFrom_absent {key : String} {keywords : List String} (absent : key ∉ keywords)
    (position : Nat) (found : Option Nat) (abbreviated : Nat) :
    (scanFrom key position found abbreviated keywords).exact = false ∧
      (scanFrom key position found abbreviated keywords).abbreviated =
        abbreviated + keywords.countP (abbreviates key) := by
  induction keywords generalizing position found abbreviated with
  | nil => exact ⟨rfl, rfl⟩
  | cons keyword rest inductionHypothesis =>
      have different : keyword ≠ key := fun same => absurd (same ▸ List.mem_cons_self) absent
      have later : key ∉ rest := fun inside => absent (List.mem_cons_of_mem _ inside)
      rw [scanFrom, if_neg different]
      split
      next shortens =>
        obtain ⟨exact, count⟩ := inductionHypothesis later (position + 1) (some position)
          (abbreviated + 1)
        rw [List.countP_cons_of_pos shortens]
        exact ⟨exact, by omega⟩
      next longer =>
        rw [List.countP_cons_of_neg longer]
        exact inductionHypothesis later _ _ _

/-- Without an abbreviated keyword, what was found before stays. A single one is found. -/
theorem found_scanFrom {key : String} {keywords : List String} (absent : key ∉ keywords)
    (position : Nat) (found : Option Nat) (abbreviated : Nat) :
    (keywords.countP (abbreviates key) = 0 →
      (scanFrom key position found abbreviated keywords).found = found) ∧
    (keywords.countP (abbreviates key) = 1 →
      (scanFrom key position found abbreviated keywords).found =
        some (position + keywords.findIdx (abbreviates key))) := by
  induction keywords generalizing position found abbreviated with
  | nil => exact ⟨fun _ => rfl, fun one => by cases one⟩
  | cons keyword rest inductionHypothesis =>
      have different : keyword ≠ key := fun same => absurd (same ▸ List.mem_cons_self) absent
      have later : key ∉ rest := fun inside => absent (List.mem_cons_of_mem _ inside)
      rw [scanFrom, if_neg different]
      split
      next shortens =>
        obtain ⟨none_left, _⟩ := inductionHypothesis later (position + 1) (some position)
          (abbreviated + 1)
        rw [List.countP_cons_of_pos shortens, List.findIdx_cons, shortens]
        exact ⟨fun zero => by omega, fun one => none_left (by omega)⟩
      next longer =>
        obtain ⟨kept, single⟩ := inductionHypothesis later (position + 1) found abbreviated
        have longer : abbreviates key keyword = false := Bool.eq_false_iff.mpr longer
        rw [List.countP_cons_of_neg (by simp [longer]), List.findIdx_cons, longer]
        refine ⟨kept, fun one => ?_⟩
        rw [single one, cond_false]
        congr 1
        omega

/-- An exact match ends the scan, and otherwise every keyword is compared. -/
theorem comparisons_scanFrom (key : String) (keywords : List String) (position : Nat)
    (found : Option Nat) (abbreviated : Nat) :
    (scanFrom key position found abbreviated keywords).comparisons =
      position + if key ∈ keywords then keywords.idxOf key + 1 else keywords.length := by
  induction keywords generalizing position found abbreviated with
  | nil => rfl
  | cons keyword rest inductionHypothesis =>
      by_cases same : keyword = key
      · simp [scanFrom, same]
      · have elsewhere : key ∈ keyword :: rest ↔ key ∈ rest := by
          rw [List.mem_cons, or_iff_right (Ne.symm same)]
        have later : (keyword :: rest).idxOf key = rest.idxOf key + 1 := by
          rw [List.idxOf_cons, beq_false_of_ne same, cond_false]
        have counted : position + (if key ∈ keyword :: rest then (keyword :: rest).idxOf key + 1
              else (keyword :: rest).length) =
            position + 1 + if key ∈ rest then rest.idxOf key + 1 else rest.length := by
          rw [later, List.length_cons]
          simp only [elsewhere]
          split <;> omega
        rw [counted, scanFrom, if_neg same]
        split
        · exact inductionHypothesis _ _ _
        · exact inductionHypothesis _ _ _

theorem comparisons_run (key : String) (keywords : List String) :
    (run key keywords).comparisons =
      if key = "" then 0
      else if key ∈ keywords then keywords.idxOf key + 1
      else keywords.length := by
  unfold run
  split
  next => rfl
  next => rw [comparisons_scanFrom, Nat.zero_add]

/-- The keywords that a key abbreviates are counted where it equals none of them. -/
theorem abbreviated_run {key : String} {keywords : List String} (nonempty : key ≠ "")
    (absent : key ∉ keywords) :
    (run key keywords).abbreviated = keywords.countP (abbreviates key) := by
  rw [run, if_neg nonempty, (scanFrom_absent absent 0 none 0).2, Nat.zero_add]

/-- The position that a key resolves to, without the scan. -/
theorem resolved?_run (key : String) (keywords : List String) (exactOnly : Bool) :
    (run key keywords).resolved? exactOnly =
      if key = "" then none
      else if key ∈ keywords then some (keywords.idxOf key)
      else if exactOnly = false ∧ keywords.countP (abbreviates key) = 1 then
        some (keywords.findIdx (abbreviates key))
      else none := by
  unfold run
  split
  next empty => simp [resolved?]
  next nonempty =>
    split
    next member =>
      obtain ⟨exact, found⟩ := scanFrom_member member 0 none 0
      simp [resolved?, exact, found]
    next absent =>
      obtain ⟨exact, count⟩ := scanFrom_absent absent 0 none 0
      obtain ⟨_, found⟩ := found_scanFrom absent 0 none 0
      rw [Nat.zero_add] at count found
      simp only [resolved?, exact, count, Bool.false_or]
      cases exactOnly with
      | true => simp
      | false =>
          by_cases single : keywords.countP (abbreviates key) = 1
          · simp [single, found single]
          · simp [single]

variable {key : String} {keywords : List String} {exactOnly : Bool} {position : Nat}

/-- The empty key resolves to nothing. -/
theorem nonempty_of_resolved (resolved : (run key keywords).resolved? exactOnly = some position) :
    key ≠ "" := by
  rintro rfl
  rw [resolved?_run, if_pos rfl] at resolved
  cases resolved

/-- A key means itself if it is a keyword, and else the only keyword that begins with it. -/
inductive Means (key : String) (keywords : List String) : Bool → String → Prop
  | exact {exactOnly : Bool} (nonempty : key ≠ "") (member : key ∈ keywords) :
      Means key keywords exactOnly key
  | only {keyword : String} (nonempty : key ≠ "") (absent : key ∉ keywords)
      (single : keywords.filter (abbreviates key) = [keyword]) :
      Means key keywords false keyword

namespace Means

variable {keyword : String}

theorem mem_filter (means : Means key keywords exactOnly keyword) :
    keyword ∈ keywords.filter (abbreviates key) := by
  cases means with
  | exact nonempty member => exact List.mem_filter.mpr ⟨member, abbreviates_self key⟩
  | only nonempty absent single => simp [single]

theorem mem (means : Means key keywords exactOnly keyword) : keyword ∈ keywords :=
  (List.mem_filter.mp means.mem_filter).1

theorem shortens (means : Means key keywords exactOnly keyword) :
    abbreviates key keyword = true :=
  (List.mem_filter.mp means.mem_filter).2

/-- What an exact lookup takes, any lookup takes. -/
theorem inexact (means : Means key keywords exactOnly keyword) :
    Means key keywords false keyword := by
  cases means with
  | exact nonempty member => exact .exact nonempty member
  | only nonempty absent single => exact .only nonempty absent single

theorem nonempty (means : Means key keywords exactOnly keyword) : key ≠ "" := by
  cases means with
  | exact nonempty _ => exact nonempty
  | only nonempty _ _ => exact nonempty

/-- The keyword that a key means also means itself. -/
theorem itself (means : Means key keywords exactOnly keyword) (other : Bool) :
    Means keyword keywords other keyword := by
  apply Means.exact _ means.mem
  rintro rfl
  exact means.nonempty (eq_empty_of_abbreviates means.shortens)

end Means

/-- A key resolves to the first position of the keyword that it means. -/
theorem resolved?_eq_some_iff {position : Nat} :
    (run key keywords).resolved? exactOnly = some position ↔
      ∃ keyword, Means key keywords exactOnly keyword ∧ position = keywords.idxOf keyword := by
  constructor
  · intro resolved
    have nonempty := nonempty_of_resolved resolved
    rw [resolved?_run, if_neg nonempty] at resolved
    split at resolved
    next member =>
      cases resolved
      exact ⟨key, .exact nonempty member, rfl⟩
    next absent =>
      split at resolved
      next single =>
        cases resolved
        obtain ⟨rfl, counted⟩ := single
        rw [List.countP_eq_length_filter, List.length_eq_one_iff] at counted
        obtain ⟨keyword, alone⟩ := counted
        exact ⟨keyword, .only nonempty absent alone, findIdx_of_single alone⟩
      next => cases resolved
  · rintro ⟨keyword, means, rfl⟩
    rw [resolved?_run]
    cases means with
    | exact nonempty member => rw [if_neg nonempty, if_pos member]
    | only nonempty absent single =>
        have counted : keywords.countP (abbreviates key) = 1 := by
          rw [List.countP_eq_length_filter, single, List.length_singleton]
        rw [if_neg nonempty, if_neg absent, if_pos ⟨rfl, counted⟩, findIdx_of_single single]

theorem lt_of_resolved (resolved : (run key keywords).resolved? exactOnly = some position) :
    position < keywords.length := by
  obtain ⟨keyword, means, rfl⟩ := resolved?_eq_some_iff.mp resolved
  exact List.idxOf_lt_length_of_mem means.mem

/-- Where abbreviations do not count, a key resolves to itself alone. -/
theorem eq_of_resolved_exact (resolved : (run key keywords).resolved? true = some position)
    (inside : position < keywords.length) : keywords[position] = key := by
  obtain ⟨keyword, means, rfl⟩ := resolved?_eq_some_iff.mp resolved
  rw [List.getElem_idxOf inside]
  cases means with
  | exact => rfl

theorem resolved_inexact (resolved : (run key keywords).resolved? exactOnly = some position) :
    (run key keywords).resolved? false = some position := by
  obtain ⟨keyword, means, rfl⟩ := resolved?_eq_some_iff.mp resolved
  exact resolved?_eq_some_iff.mpr ⟨keyword, means.inexact, rfl⟩

/-- The keyword that a key resolves to resolves to its own position, so this is its first one. -/
theorem resolved_keyword (resolved : (run key keywords).resolved? exactOnly = some position)
    (inside : position < keywords.length) (other : Bool) :
    (run keywords[position] keywords).resolved? other = some position := by
  obtain ⟨keyword, means, rfl⟩ := resolved?_eq_some_iff.mp resolved
  rw [List.getElem_idxOf inside]
  exact resolved?_eq_some_iff.mpr ⟨keyword, means.itself other, rfl⟩

end Scan

end CommandWords
