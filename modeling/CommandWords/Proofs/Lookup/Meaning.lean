/-
This file compares lookups of new cells. Neither the order of the keywords nor an extension of the
text changes what a text means, as long as it still begins the keyword that was found.
-/

import CommandWords.Proofs.Lookup.Records
import CommandWords.Proofs.Number.Counts
import CommandWords.Proofs.Table.Meaning

namespace CommandWords

theorem Outcome.failsFor_fail_iff {Value : Type} {failure : Failure Diagnostic} {effort : Effort}
    {reason : Reason} :
    (fail failure effort : Outcome Value).failsFor reason = true ↔ failure.reason = reason := by
  simp [failsFor, Failure.hasReason]

/-- The outcomes of a scan: the first position of the keyword that the key means, or a refusal. An
ambiguous key is told what it may stand for. -/
inductive Replies (key : String) (keywords : List String) (exactOnly : Bool) :
    Outcome Number → Prop
  | means {keyword : String} {effort : Effort}
      (means : Scan.Means key keywords exactOnly keyword) :
      Replies key keywords exactOnly (.done (.natural (keywords.idxOf keyword)) effort)
  | refused {failure : Failure Diagnostic} {effort : Effort}
      (meaningless : ∀ keyword, ¬ Scan.Means key keywords exactOnly keyword)
      (reason : failure.reason =
        if key ≠ "" ∧ 2 ≤ (keywords.filter (abbreviates key)).length then .ambiguous
        else .noMatch)
      (suggestions : failure.reason = .ambiguous →
        failure.suggestions = some (keywords.filter (abbreviates key)))
      (context : failure.reason = .ambiguous →
        failure.context.bind (List.lookup "candidates") =
          some (.array ((keywords.filter (abbreviates key)).map .text))) :
      Replies key keywords exactOnly (.fail failure effort)

namespace Question

variable {Data : Type} {catalogue : Catalogue Data} {question : Question Data}
  {keywords : List String} {key : String}

theorem replies_scanned (small : keywords.length < twoPower 53) :
    Replies key keywords question.exactOnly (question.scanned key keywords) := by
  cases resolved : (Scan.run key keywords).resolved? question.exactOnly with
  | some position =>
      obtain ⟨keyword, means, rfl⟩ := Scan.resolved?_eq_some_iff.mp resolved
      have inside := Nat.lt_trans (Scan.lt_of_resolved resolved) small
      rw [scanned_of_resolved resolved, Number.ofNat_eq_natural inside]
      exact .means means
  | none =>
      have meaningless := Scan.meaningless resolved
      have unequal : key = "" ∨ key ∉ keywords := by
        by_cases empty : key = ""
        · exact .inl empty
        · exact .inr fun member => meaningless key (.exact empty member)
      have misfit := Scan.misfit_run unequal
      rw [List.countP_eq_length_filter] at misfit
      rw [(scanned_of_unresolved resolved).1, Scan.refusal, misfit]
      by_cases several : key ≠ "" ∧ 2 ≤ (keywords.filter (abbreviates key)).length
      · simp only [if_pos several]
        exact .refused meaningless (if_pos several).symm (fun _ => rfl) (fun _ => rfl)
      · simp only [if_neg several]
        exact .refused meaningless (if_neg several).symm (fun ambiguous => by cases ambiguous)
          (fun ambiguous => by cases ambiguous)

variable (catalogue) in
/-- A new cell is answered as a scan for its text says. -/
theorem askNew_replies {state : State Data} {effort : Effort}
    (formed : (state.tables.get question.table).keywords question.stride = .done keywords effort)
    (text : String) :
    ∃ outcome, ((question.askNew catalogue text).run state).1 = .ok outcome ∧
      Replies text keywords question.exactOnly outcome := by
  obtain ⟨later, ended, _⟩ : question.Answers catalogue state text _ _ :=
    answers_scanned formed text
  exact ⟨_, congrArg Prod.fst ended, replies_scanned (Table.length_small formed)⟩

/-- A new cell whose text means a keyword keeps an answer that stands for the keyword. -/
theorem answers_of_means {state : State Data} {effort : Effort} {text keyword : String}
    (formed : (state.tables.get question.table).keywords question.stride = .done keywords effort)
    (means : Scan.Means text keywords question.exactOnly keyword) :
    ∃ position cost, keywords[position]? = some keyword ∧
      question.Answers catalogue state text (.done (.natural position) cost) (some keyword) := by
  have resolved := Scan.resolved?_eq_some_iff.mpr ⟨keyword, means, rfl⟩
  have inside := List.idxOf_lt_length_of_mem means.mem
  have stands : keywords[keywords.idxOf keyword]? = some keyword := by
    rw [List.getElem?_eq_getElem inside, List.getElem_idxOf inside]
  have answers : question.Answers catalogue state text _ _ := answers_scanned formed text
  rw [scanned_of_resolved resolved, resolved, Option.bind_some, stands,
    Number.ofNat_eq_natural (Table.position_small formed inside)] at answers
  exact ⟨_, _, stands, answers⟩

end Question

/-- What may become of the outcome for a key when the key is extended. -/
structure Extended (keywords : List String) (key longer : String)
    (before after : Outcome Number) : Prop where
  inside : ∀ index effort, before = .done index effort →
    ∃ position, position < keywords.length ∧ index = .natural position
  /-- An extension that still begins the keyword that was found is answered with its position. -/
  found : ∀ position (inside : position < keywords.length) effort,
    before = .done (.natural position) effort → longer.toList <+: keywords[position].toList →
      ∃ cost, after = .done (.natural position) cost
  unmatched : key ≠ "" → before.failsFor .noMatch = true → after.failsFor .noMatch = true
  ambiguous : before.failsFor .ambiguous = true →
    after.failsFor .ambiguous = true ∨ after.failsFor .noMatch = true ∨
      ∃ position, ∃ inside : position < keywords.length, ∃ cost,
        after = .done (.natural position) cost ∧ key.toList <+: keywords[position].toList

/-- Two outcomes for one key, where the keywords of the second one are those of the first in another
order. -/
inductive Rearranged (keywords others : List String) : Outcome Number → Outcome Number → Prop
  | found {position place : Nat} {effort cost : Effort} (inside : position < keywords.length)
      (also : place < others.length) (same : keywords[position] = others[place]) :
      Rearranged keywords others (.done (.natural position) effort) (.done (.natural place) cost)
  | failed {failure other : Failure Diagnostic} {effort cost : Effort}
      (reason : failure.reason = other.reason)
      (suggestions : failure.reason = .ambiguous → ∃ offered also,
        failure.suggestions = some offered ∧ other.suggestions = some also ∧
          offered.Perm also) :
      Rearranged keywords others (.fail failure effort) (.fail other cost)

namespace Replies

variable {key longer keyword : String} {keywords others : List String} {exactOnly : Bool}
  {before after : Outcome Number}

/-- A key that means a keyword is answered with its first position. -/
theorem of_means (replies : Replies key keywords exactOnly before)
    (means : Scan.Means key keywords exactOnly keyword) :
    ∃ effort, before = .done (.natural (keywords.idxOf keyword)) effort := by
  cases replies with
  | means also =>
      obtain rfl := also.unique means
      exact ⟨_, rfl⟩
  | refused meaningless _ _ _ => exact absurd means (meaningless keyword)

/-- A key that begins no keyword is unmatched, and so is every longer key. -/
theorem unmatched (replies : Replies key keywords false before)
    (extended : Replies longer keywords false after) (begins : key.toList <+: longer.toList)
    (nonempty : key ≠ "") (failed : before.failsFor .noMatch = true) :
    after.failsFor .noMatch = true := by
  have nothing : keywords.filter (abbreviates key) = [] := by
    cases replies with
    | means means => cases failed
    | refused meaningless reason _ _ =>
        rw [Outcome.failsFor_fail_iff.mp failed] at reason
        split at reason
        next => cases reason
        next few =>
          exact Scan.filter_eq_nil_of_meaningless meaningless nonempty
            (Nat.lt_of_not_le fun many => few ⟨nonempty, many⟩)
  have still : keywords.filter (abbreviates longer) = [] := by
    rw [List.filter_eq_nil_iff] at nothing ⊢
    exact fun keyword member shortens =>
      nothing keyword member (abbreviates_of_begins begins shortens)
  cases extended with
  | means means =>
      have listed := means.mem_filter
      rw [still] at listed
      cases listed
  | refused _ reason _ _ =>
      rw [still, if_neg (by simp)] at reason
      exact Outcome.failsFor_fail_iff.mpr reason

theorem extended (replies : Replies key keywords false before)
    (longerReplies : Replies longer keywords false after)
    (begins : key.toList <+: longer.toList) : Extended keywords key longer before after := by
  constructor
  · intro index effort found
    cases replies with
    | refused => cases found
    | means means =>
        cases found
        exact ⟨_, List.idxOf_lt_length_of_mem means.mem, rfl⟩
  · intro position inside effort found within
    cases replies with
    | refused => cases found
    | means means =>
        obtain rfl := Number.natural_injective (Outcome.done.inj found).1
        rw [List.getElem_idxOf inside] at within
        exact longerReplies.of_means (means.extend begins within)
  · exact replies.unmatched longerReplies begins
  · intro _
    cases longerReplies with
    | refused _ reason _ _ =>
        split at reason
        next => exact .inl (Outcome.failsFor_fail_iff.mpr reason)
        next => exact .inr (.inl (Outcome.failsFor_fail_iff.mpr reason))
    | @means keyword _ means =>
        have inside := List.idxOf_lt_length_of_mem means.mem
        refine .inr (.inr ⟨_, inside, _, rfl, ?_⟩)
        rw [List.getElem_idxOf inside]
        exact begins.trans (abbreviates_iff.mp means.shortens)

theorem rearranged (replies : Replies key keywords exactOnly before)
    (also : Replies key others exactOnly after) (permuted : keywords.Perm others) :
    Rearranged keywords others before after := by
  have filtered := permuted.filter (abbreviates key)
  cases replies with
  | means means =>
      have moved := means.perm permuted
      obtain ⟨cost, rfl⟩ := also.of_means moved
      have inside := List.idxOf_lt_length_of_mem means.mem
      have there := List.idxOf_lt_length_of_mem moved.mem
      exact .found inside there ((List.getElem_idxOf inside).trans (List.getElem_idxOf there).symm)
  | refused meaningless reason suggestions _ =>
      cases also with
      | means means => exact absurd (means.perm permuted.symm) (meaningless _)
      | refused _ sameReason offered _ =>
          rw [filtered.length_eq, ← sameReason] at reason
          exact .failed reason fun ambiguous =>
            ⟨_, _, suggestions ambiguous, offered (reason ▸ ambiguous), filtered⟩

end Replies

namespace Question

variable {Data : Type} {catalogue : Catalogue Data} {question other : Question Data}
  {state later : State Data} {keywords others : List String} {effort cost : Effort}

variable (catalogue) in
/-- An extension of a text that still begins the keyword found is answered with the same index, an
extension of an unmatched text is unmatched, and an extension of an ambiguous text is answered with
a keyword that begins with the text if it is answered at all. Each lookup is that of a new cell in a
table with these keywords, and abbreviations count. -/
theorem extension_keeps_meaning
    (formed : (state.tables.get question.table).keywords question.stride = .done keywords effort)
    (also : (later.tables.get other.table).keywords other.stride = .done keywords cost)
    (inexact : question.exactOnly = false) (otherInexact : other.exactOnly = false)
    {text longer : String} (begins : text.toList <+: longer.toList) :
    ∃ before after, ((question.askNew catalogue text).run state).1 = .ok before ∧
      ((other.askNew catalogue longer).run later).1 = .ok after ∧
        Extended keywords text longer before after := by
  obtain ⟨before, ended, replies⟩ := askNew_replies catalogue formed text
  obtain ⟨after, endedToo, longerReplies⟩ := askNew_replies catalogue also longer
  rw [inexact] at replies
  rw [otherInexact] at longerReplies
  exact ⟨before, after, ended, endedToo, replies.extended longerReplies begins⟩

/-- The longer abbreviation is looked up among records, and the keyword stands there twice. -/
theorem extension_keeps_meaning_records :
    let keywords := ["stop", "start", "stop", "status"]
    let records : Table := .ofSlots
      [.keyword "stop", .other, .keyword "start", .other, .keyword "stop", .sentinel,
        .keyword "status"]
    let state := session .inert [.addTable records, .addTable (.ofKeywords keywords)]
    let question : Question Unit := ⟨⟨0⟩, ⟨0⟩, 1, "option", false⟩
    let other : Question Unit := ⟨⟨0⟩, ⟨1⟩, 2, "subcommand", false⟩
    (state.tables.get question.table).keywords question.stride = .done keywords .unknown ∧
      (state.tables.get other.table).keywords other.stride = .done keywords .unknown ∧
        "star".toList <+: "start".toList ∧
          ∃ effort cost,
            ((question.askNew .inert "star").run state).1 = .ok (.done (.natural 1) effort) ∧
              ((other.askNew .inert "start").run state).1 = .ok (.done (.natural 1) cost) := by
  intro keywords records state question other
  have formed : (state.tables.get question.table).keywords question.stride =
      .done keywords .unknown := Table.keywords_of_result (by decide +kernel)
  have also : (state.tables.get other.table).keywords other.stride =
      .done keywords .unknown := Table.keywords_of_result (by decide +kernel)
  have begins : "star".toList <+: "start".toList := by decide +kernel
  have means : Scan.Means "star" keywords question.exactOnly "start" :=
    .only (by decide) (by decide) (by decide +kernel)
  obtain ⟨before, after, ended, endedToo, extended⟩ :=
    extension_keeps_meaning .inert formed also rfl rfl begins
  obtain ⟨outcome, same, replies⟩ := askNew_replies .inert formed "star"
  cases ended.symm.trans same
  obtain ⟨effort, rfl⟩ := replies.of_means means
  have place : keywords.idxOf "start" = 1 := by decide
  rw [place] at extended ended
  obtain ⟨cost, rfl⟩ := extended.found 1 (by decide) effort rfl (by decide +kernel)
  exact ⟨formed, also, begins, effort, cost, ended, endedToo⟩

variable (catalogue) in
/-- Tables with the same keywords in another order answer a new cell with the same keyword, or
refuse its text for the same reason and with the same candidates. -/
theorem order_keeps_meaning
    (formed : (state.tables.get question.table).keywords question.stride = .done keywords effort)
    (also : (later.tables.get other.table).keywords other.stride = .done others cost)
    (permuted : keywords.Perm others) (exactOnly : other.exactOnly = question.exactOnly)
    (text : String) :
    ∃ before after, ((question.askNew catalogue text).run state).1 = .ok before ∧
      ((other.askNew catalogue text).run later).1 = .ok after ∧
        Rearranged keywords others before after := by
  obtain ⟨before, ended, replies⟩ := askNew_replies catalogue formed text
  obtain ⟨after, endedToo, otherReplies⟩ := askNew_replies catalogue also text
  rw [exactOnly] at otherReplies
  exact ⟨before, after, ended, endedToo, replies.rearranged otherReplies permuted⟩

/-- A text that begins a keyword twice is ambiguous in both orders, where abbreviations do not count
as well. -/
theorem order_keeps_meaning_ambiguous :
    let keywords := ["start", "stop", "stay", "start"]
    let others := ["stay", "start", "start", "stop"]
    let state := session .inert
      [.addTable (.ofKeywords others), .addTable (.ofKeywords keywords)]
    let question : Question Unit := ⟨⟨0⟩, ⟨0⟩, 1, "option", true⟩
    let other : Question Unit := { question with table := ⟨1⟩ }
    (state.tables.get question.table).keywords question.stride = .done keywords .unknown ∧
      (state.tables.get other.table).keywords other.stride = .done others .unknown ∧
        keywords.Perm others ∧
          ∃ before after effort cost,
            ((question.askNew .inert "sta").run state).1 = .ok (.fail before effort) ∧
              ((other.askNew .inert "sta").run state).1 = .ok (.fail after cost) ∧
                before.reason = .ambiguous ∧ after.reason = .ambiguous ∧
                  ∃ offered also, before.suggestions = some offered ∧
                    after.suggestions = some also ∧ offered.Perm also := by
  intro keywords others state question other
  have formed : (state.tables.get question.table).keywords question.stride =
      .done keywords .unknown := Table.keywords_of_result (by decide +kernel)
  have also : (state.tables.get other.table).keywords other.stride = .done others .unknown :=
    Table.keywords_of_result (by decide +kernel)
  have permuted : keywords.Perm others := by decide
  obtain ⟨before, after, ended, endedToo, rearranged⟩ :=
    order_keeps_meaning .inert formed also permuted rfl "sta"
  obtain ⟨outcome, same, replies⟩ := askNew_replies .inert formed "sta"
  cases ended.symm.trans same
  have ambiguous : before.failsFor .ambiguous = true := by
    cases replies with
    | means means =>
        cases means with
        | exact _ member => exact absurd member (by decide)
    | refused _ reason _ _ =>
        rw [if_pos (by decide +kernel)] at reason
        exact Outcome.failsFor_fail_iff.mpr reason
  cases rearranged with
  | found => cases ambiguous
  | failed reason suggestions =>
      have here := Outcome.failsFor_fail_iff.mp ambiguous
      exact ⟨formed, also, permuted, _, _, _, _, ended, endedToo, here, reason ▸ here,
        suggestions here⟩

end Question

end CommandWords
