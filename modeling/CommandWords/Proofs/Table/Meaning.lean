/-
This file says what becomes of the meaning of a key when the keywords are rearranged or the key is
extended, and when a key means nothing.
-/

import CommandWords.Proofs.Table.Resolved

namespace CommandWords

theorem abbreviates_of_begins {key longer keyword : String} (begins : key.toList <+: longer.toList)
    (shortens : abbreviates longer keyword = true) : abbreviates key keyword = true :=
  abbreviates_iff.mpr (begins.trans (abbreviates_iff.mp shortens))

namespace Scan

variable {key longer keyword other : String} {keywords others : List String} {exactOnly : Bool}

namespace Means

theorem unique (means : Means key keywords exactOnly keyword)
    (also : Means key keywords exactOnly other) : other = keyword := by
  cases means with
  | exact nonempty member =>
      cases also with
      | exact _ _ => rfl
      | only _ absent _ => exact absurd member absent
  | only nonempty absent single =>
      have found := also.mem_filter
      rw [single] at found
      exact List.mem_singleton.mp found

/-- The order of the keywords has no part in the meaning of a key. -/
theorem perm (means : Means key keywords exactOnly keyword) (permuted : keywords.Perm others) :
    Means key others exactOnly keyword := by
  cases means with
  | exact nonempty member => exact .exact nonempty (permuted.mem_iff.mp member)
  | only nonempty absent single =>
      refine .only nonempty (fun member => absent (permuted.mem_iff.mpr member)) ?_
      have same := permuted.filter (abbreviates key)
      rw [single] at same
      exact (List.singleton_perm.mp same).symm

/-- A key between another key and the keyword that this one means has the same meaning. -/
theorem extend (means : Means key keywords false keyword)
    (begins : key.toList <+: longer.toList) (within : longer.toList <+: keyword.toList) :
    Means longer keywords false keyword := by
  cases means with
  | exact nonempty member =>
      have same : key = longer :=
        String.toList_inj.mp (begins.eq_of_length_le within.length_le)
      exact same ▸ .exact nonempty member
  | only nonempty absent single =>
      have filled : longer ≠ "" := by
        rintro rfl
        exact nonempty (String.toList_inj.mp (List.prefix_nil.mp begins))
      -- Whatever the longer key abbreviates is the one keyword that the key abbreviates.
      have only (found : String) (member : found ∈ keywords)
          (shortens : abbreviates longer found = true) : found = keyword := by
        have listed : found ∈ keywords.filter (abbreviates key) :=
          List.mem_filter.mpr ⟨member, abbreviates_of_begins begins shortens⟩
        rw [single] at listed
        exact List.mem_singleton.mp listed
      by_cases present : longer ∈ keywords
      · obtain rfl := only longer present (abbreviates_self longer)
        exact .exact filled present
      · refine .only filled present ?_
        have nested : keywords.filter (abbreviates longer) =
            (keywords.filter (abbreviates key)).filter
              (abbreviates longer) := by
          rw [List.filter_filter]
          apply List.filter_congr
          intro found _
          cases shortens : abbreviates longer found with
          | true => simp [abbreviates_of_begins begins shortens]
          | false => simp
        rw [nested, single, List.filter_cons_of_pos (abbreviates_iff.mpr within), List.filter_nil]

end Means

theorem meaningless (unresolved : (run key keywords).resolved? exactOnly = none) :
    ∀ keyword, ¬ Means key keywords exactOnly keyword := by
  intro keyword means
  have resolved := resolved?_eq_some_iff.mpr ⟨keyword, means, rfl⟩
  rw [unresolved] at resolved
  cases resolved

/-- A key without a meaning is empty, abbreviates nothing or abbreviates several keywords. -/
theorem filter_eq_nil_of_meaningless (meaningless : ∀ keyword, ¬ Means key keywords false keyword)
    (nonempty : key ≠ "") (few : (keywords.filter (abbreviates key)).length < 2) :
    keywords.filter (abbreviates key) = [] := by
  have absent : key ∉ keywords := fun member => meaningless key (.exact nonempty member)
  cases listed : keywords.filter (abbreviates key) with
  | nil => rfl
  | cons first rest =>
      rw [listed, List.length_cons] at few
      obtain rfl : rest = [] := List.length_eq_zero_iff.mp (by omega)
      exact absurd (.only nonempty absent listed) (meaningless first)

end Scan

end CommandWords
