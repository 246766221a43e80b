/-
This file says what is found under a name after fields were overridden or selected, and that the
order of fields with different names has no part in it.
-/

import CommandWords.Fields

namespace CommandWords.Fields

variable {Value : Type} {fields others : Fields Value} {name : String}

theorem lookup_cons_eq (first : String) (given : Value) (rest : Fields Value) (name : String) :
    List.lookup name ((first, given) :: rest) =
      if name = first then some given else rest.lookup name := by
  rw [List.lookup_cons]
  by_cases same : name = first
  · rw [if_pos same, beq_iff_eq.mpr same]
  · rw [if_neg same, beq_false_of_ne same]

theorem lookup_eq_none_of_not_mem (absent : name ∉ fields.map Prod.fst) :
    fields.lookup name = none := by
  refine List.lookup_eq_none_iff.mpr fun field member => ?_
  rw [bne_iff_ne]
  rintro rfl
  exact absent (List.mem_map_of_mem member)

/-- A selection that keeps all fields of a name finds the same under it. -/
theorem lookup_filter {keep : String × Value → Bool} (kept : ∀ value, keep (name, value) = true)
    (fields : Fields Value) : (List.filter keep fields).lookup name = fields.lookup name := by
  induction fields with
  | nil => rfl
  | cons field rest inductionHypothesis =>
      obtain ⟨first, given⟩ := field
      rw [List.filter_cons, lookup_cons_eq]
      by_cases same : name = first
      · subst same
        rw [if_pos (kept given), lookup_cons_eq, if_pos rfl, if_pos rfl]
      · rw [if_neg same]
        split
        · rw [lookup_cons_eq, if_neg same, inductionHypothesis]
        · exact inductionHypothesis

/-- No name appears twice, as in an object. -/
def Distinct (fields : Fields Value) : Prop := (fields.map Prod.fst).Nodup

instance (fields : Fields Value) : Decidable (Distinct fields) :=
  inferInstanceAs (Decidable (List.Nodup _))

namespace Distinct

theorem filter (distinct : Distinct fields) (keep : String × Value → Bool) :
    Distinct (List.filter keep fields) :=
  List.Nodup.sublist (List.filter_sublist.map Prod.fst) distinct

theorem lookup_eq_some_iff (distinct : Distinct fields) {value : Value} :
    fields.lookup name = some value ↔ (name, value) ∈ fields := by
  induction fields with
  | nil => simp
  | cons field rest inductionHypothesis =>
      obtain ⟨first, given⟩ := field
      obtain ⟨fresh, distinct⟩ := List.nodup_cons.mp distinct
      rw [lookup_cons_eq, List.mem_cons, Prod.mk.injEq]
      by_cases same : name = first
      · subst same
        have missing : (name, value) ∉ rest :=
          fun member => fresh (List.mem_map.mpr ⟨_, member, rfl⟩)
        simp [missing, eq_comm]
      · simp [same, inductionHypothesis distinct]

theorem lookup_of_perm (distinct : Distinct fields) (permuted : fields.Perm others) :
    others.lookup name = fields.lookup name := by
  have also : Distinct others := (permuted.map Prod.fst).nodup_iff.mp distinct
  apply Option.ext
  intro value
  rw [also.lookup_eq_some_iff, distinct.lookup_eq_some_iff, permuted.mem_iff]

/-- A field of the second list wins over a field of the first. -/
theorem lookup_override (distinct : Distinct fields) (base : Fields Value) :
    (override base fields).lookup name = (fields.lookup name).or (base.lookup name) := by
  induction fields generalizing base with
  | nil => rfl
  | cons field rest inductionHypothesis =>
      obtain ⟨first, given⟩ := field
      obtain ⟨fresh, distinct⟩ := List.nodup_cons.mp distinct
      have step : override base ((first, given) :: rest) =
          override (insert first given base) rest := rfl
      rw [step, inductionHypothesis distinct, lookup_cons_eq]
      by_cases same : name = first
      · subst same
        rw [lookup_eq_none_of_not_mem fresh, lookup_insert_self, if_pos rfl]
        rfl
      · rw [lookup_insert_other same, if_neg same]

end Distinct

end CommandWords.Fields
