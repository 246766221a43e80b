/-
This file says which findings a failure collects: those of its reports, from the outermost to the
innermost, each one once. Wrapping a failure adds a message and context and no findings.
-/

import CommandWords.Outcome.Failure
import CommandWords.Proofs.Fields

namespace CommandWords.Failure

variable {Finding : Type}

section

variable [DecidableEq Finding]

/-- The first occurrences of the findings that were not seen before. -/
def fresh (seen findings : List Finding) : List Finding :=
  (findings.filter fun finding => finding ∉ seen).eraseDups

theorem fresh_nil (seen : List Finding) : fresh seen [] = [] := rfl

theorem fresh_cons_of_mem {seen : List Finding} {finding : Finding} (known : finding ∈ seen)
    (rest : List Finding) : fresh seen (finding :: rest) = fresh seen rest := by
  rw [fresh, List.filter_cons_of_neg (by simpa using known), fresh]

theorem fresh_cons_of_not_mem {seen : List Finding} {finding : Finding} (unknown : finding ∉ seen)
    (rest : List Finding) :
    fresh seen (finding :: rest) = finding :: fresh (seen ++ [finding]) rest := by
  -- To drop the duplicates of a finding is to count it as seen.
  have others : (rest.filter fun other => other ∉ seen ++ [finding]) =
      (rest.filter fun other => other ∉ seen).filter fun other => !other == finding := by
    rw [List.filter_filter]
    apply List.filter_congr
    intro other _
    rw [Bool.eq_iff_iff]
    simp [and_comm]
  rw [fresh, List.filter_cons_of_pos (by simpa using unknown), List.eraseDups_cons, ← others, fresh]

/-- Collecting visits the findings once and sees the fresh ones. -/
theorem collectNew_eq (seen findings : List Finding) :
    collectNew seen findings = (fresh seen findings, seen ++ fresh seen findings) := by
  induction findings generalizing seen with
  | nil => rw [collectNew, fresh_nil, List.append_nil]
  | cons finding rest inductionHypothesis =>
      rw [collectNew]
      split
      next known => rw [fresh_cons_of_mem known, inductionHypothesis]
      next unknown =>
        rw [fresh_cons_of_not_mem unknown, inductionHypothesis, List.append_assoc]
        rfl

example : collectNew [2] [1, 2, 1, 3] = ([1, 3], [2, 1, 3]) := by decide

/-- What was collected from the first findings is not fresh among the further ones. -/
theorem fresh_append (seen first further : List Finding) :
    fresh seen (first ++ further) =
      fresh seen first ++ fresh (seen ++ fresh seen first) further := by
  induction first generalizing seen with
  | nil => rw [List.nil_append, fresh_nil, List.append_nil, List.nil_append]
  | cons finding first inductionHypothesis =>
      rw [List.cons_append]
      by_cases known : finding ∈ seen
      · rw [fresh_cons_of_mem known, fresh_cons_of_mem known, inductionHypothesis]
      · rw [fresh_cons_of_not_mem known, fresh_cons_of_not_mem known, inductionHypothesis,
          List.append_assoc]
        rfl

/-- The findings of several reports are collected as if they stood in one list. -/
theorem collectReports_eq (seen : List Finding) (reports : List (Report Finding)) :
    collectReports seen reports = collectNew seen (reports.flatMap Report.diagnostics) := by
  induction reports generalizing seen with
  | nil => rfl
  | cons report rest inductionHypothesis =>
      rw [collectReports, List.flatMap_cons, collectNew_eq, collectNew_eq, fresh_append,
        ← List.append_assoc]
      dsimp only
      rw [inductionHypothesis, collectNew_eq]

/-- Findings that are seen are not fresh. -/
theorem fresh_of_subset {seen findings : List Finding} (known : findings ⊆ seen) :
    fresh seen findings = [] := by
  induction findings with
  | nil => rfl
  | cons finding rest inductionHypothesis =>
      obtain ⟨first, others⟩ := List.cons_subset.mp known
      rw [fresh_cons_of_mem first, inductionHypothesis others]

theorem subset_seen_fresh (seen findings : List Finding) :
    findings ⊆ seen ++ fresh seen findings := by
  intro finding member
  by_cases known : finding ∈ seen
  · exact List.mem_append_left _ known
  · refine List.mem_append_right _ (List.mem_eraseDups.mpr (List.mem_filter.mpr ⟨member, ?_⟩))
    exact decide_eq_true known

/-- Findings that come a second time at once are not collected again. -/
theorem fresh_twice (seen first further : List Finding) :
    fresh seen (first ++ (first ++ further)) = fresh seen (first ++ further) := by
  have again := fresh_of_subset (subset_seen_fresh seen first)
  rw [fresh_append, fresh_append (seen ++ fresh seen first), again, List.append_nil,
    List.nil_append, ← fresh_append]

/-- The findings of the reports of a failure, one report after another. -/
def listed (failure : Failure Finding) : List Finding :=
  failure.reports.flatMap Report.diagnostics

theorem findings_eq (failure : Failure Finding) (seen : List Finding) :
    failure.findings seen = (fresh seen failure.listed, seen ++ fresh seen failure.listed) := by
  rw [findings, collectReports_eq, collectNew_eq, listed]

end

/-- A message and context that are put around a failure. -/
structure Wrapping where
  message : String
  context : Option (Fields Json)
  distinct : ∀ fields ∈ context, Fields.Distinct fields

/-- The value that a wrapping gives under a name. -/
def Wrapping.value? (wrapping : Wrapping) (name : String) : Option Json :=
  wrapping.context.bind (List.lookup name)

variable (failure : Failure Finding)

/-- The value that a failure has under a name in its context. -/
def value? (name : String) : Option Json := failure.context.bind (List.lookup name)

def wrapWith (wrapping : Wrapping) : Failure Finding :=
  failure.wrap wrapping.message wrapping.context

/-- The wrappings are put around the failure one after another. -/
def wrapAll (wrappings : List Wrapping) : Failure Finding :=
  wrappings.foldl wrapWith failure

/-- The failure that causes are followed to so many times. -/
def causeAfter? : Nat → Option (Failure Finding)
  | 0 => some failure
  | count + 1 => (causeAfter? count).bind cause?

section

variable (wrapping : Wrapping)

/-- A wrapped failure lists the findings of its outermost report twice. -/
theorem findings_wrapWith [DecidableEq Finding] (seen : List Finding) :
    (failure.wrapWith wrapping).findings seen = failure.findings seen := by
  have twice : fresh seen (failure.wrapWith wrapping).listed = fresh seen failure.listed :=
    fresh_twice seen failure.diagnostics (failure.causes.flatMap Report.diagnostics)
  rw [findings_eq, findings_eq, twice]

theorem cause?_wrapWith : (failure.wrapWith wrapping).cause? = some failure := rfl

theorem value?_wrapWith (name : String) :
    (failure.wrapWith wrapping).value? name = (wrapping.value? name).or (failure.value? name) := by
  have wrapped : (failure.wrapWith wrapping).value? name =
      (Fields.override (failure.context.getD []) (wrapping.context.getD [])).lookup name := rfl
  have distinct : Fields.Distinct (wrapping.context.getD []) := by
    cases given : wrapping.context with
    | none => exact List.nodup_nil
    | some fields => exact wrapping.distinct fields given
  have lookup (context : Option (Fields Json)) :
      (context.getD []).lookup name = context.bind (List.lookup name) := by
    cases context <;> rfl
  rw [wrapped, distinct.lookup_override, lookup, lookup, Wrapping.value?, Failure.value?]

end

/-- The outer failure keeps all parts of the failure within but its message and its context. -/
structure Within (outer : Failure Finding) (wrappings : List Wrapping) : Prop where
  reason : outer.reason = failure.reason
  recoverable : outer.recoverable = failure.recoverable
  suggestions : outer.suggestions = failure.suggestions
  diagnostics : outer.diagnostics = failure.diagnostics
  origin : outer.causeAfter? wrappings.length = some failure
  /-- The last wrapping that gives a value under a name counts. -/
  value : ∀ name, outer.value? name =
    (wrappings.reverse.findSome? (·.value? name)).or (failure.value? name)

/-- One more wrapping inside. -/
theorem Within.inside {failure outer : Failure Finding} {wrapping : Wrapping}
    {wrappings : List Wrapping} (within : (failure.wrapWith wrapping).Within outer wrappings) :
    failure.Within outer (wrapping :: wrappings) where
  reason := within.reason
  recoverable := within.recoverable
  suggestions := within.suggestions
  diagnostics := within.diagnostics
  origin := by
    rw [List.length_cons, causeAfter?, within.origin, Option.bind_some, cause?_wrapWith]
  value name := by
    rw [within.value, value?_wrapWith, List.reverse_cons, List.findSome?_append,
      List.findSome?_singleton, Option.or_assoc]

theorem within_wrapAll (wrappings : List Wrapping) :
    failure.Within (failure.wrapAll wrappings) wrappings := by
  induction wrappings generalizing failure with
  | nil => exact ⟨rfl, rfl, rfl, rfl, rfl, fun _ => rfl⟩
  | cons wrapping wrappings inductionHypothesis =>
      exact (inductionHypothesis (failure.wrapWith wrapping)).inside

theorem findings_wrapAll [DecidableEq Finding] (wrappings : List Wrapping) (seen : List Finding) :
    (failure.wrapAll wrappings).findings seen = failure.findings seen := by
  induction wrappings generalizing failure with
  | nil => rfl
  | cons wrapping wrappings inductionHypothesis =>
      exact (inductionHypothesis (failure.wrapWith wrapping)).trans
        (failure.findings_wrapWith wrapping seen)

/-- A failure collects the findings of its reports from the outermost to the innermost, each one at
its first occurrence and none that was seen before, and these are seen afterwards. Any wrappings
leave that as it is, together with all other parts of the failure except its message and its
context. -/
theorem findings_once [DecidableEq Finding] (seen : List Finding) (wrappings : List Wrapping) :
    failure.findings seen = (fresh seen failure.listed, seen ++ fresh seen failure.listed) ∧
      (failure.wrapAll wrappings).findings seen = failure.findings seen ∧
        failure.Within (failure.wrapAll wrappings) wrappings :=
  ⟨failure.findings_eq seen, failure.findings_wrapAll wrappings seen,
    failure.within_wrapAll wrappings⟩

end CommandWords.Failure
