/-
This file says what an ambiguous lookup offers: every keyword that begins with the text, in the
order of the table, and each of them is found when it is looked up itself.
-/

import CommandWords.Proofs.Lookup.Meaning

namespace CommandWords

/-- The candidates that a failure offers for a key that begins several keywords. -/
structure Offers (key : String) (keywords candidates : List String)
    (failure : Failure Diagnostic) : Prop where
  complete : candidates = keywords.filter fun keyword => key.toList.isPrefixOf keyword.toList
  suggestions : failure.suggestions = some candidates
  context : failure.context.bind (List.lookup "candidates") =
    some (.array (candidates.map .text))
  several : 2 ≤ candidates.length
  /-- The scan counted as many. -/
  counted : (Scan.run key keywords).abbreviated = candidates.length
  longer : ∀ candidate, candidate ∈ candidates → candidate ≠ key

namespace Replies

variable {key : String} {keywords : List String} {exactOnly : Bool}
  {failure : Failure Diagnostic} {effort : Effort}

theorem offers (replies : Replies key keywords exactOnly (.fail failure effort))
    (ambiguous : failure.reason = .ambiguous) :
    key ≠ "" ∧ Offers key keywords (keywords.filter (abbreviates key)) failure := by
  cases replies with
  | refused meaningless reason suggestions context =>
      rw [ambiguous] at reason
      split at reason
      next both =>
        obtain ⟨nonempty, several⟩ := both
        have absent : key ∉ keywords := fun member => meaningless key (.exact nonempty member)
        refine ⟨nonempty, rfl, suggestions ambiguous, context ambiguous, several, ?_, ?_⟩
        · rw [Scan.abbreviated_run nonempty absent, List.countP_eq_length_filter]
        · rintro candidate listed rfl
          exact absent (List.mem_filter.mp listed).1
      next => cases reason

end Replies

namespace Question

variable {Data : Type} {catalogue : Catalogue Data} {question : Question Data}
  {state later : State Data} {failure : Failure Diagnostic} {effort : Effort}

/-- An ambiguous lookup has read the keywords of its table and the text of its cell. -/
theorem replies_of_ambiguous
    (ended : (question.ask catalogue).run state = (.ok (.fail failure effort), later))
    (ambiguous : failure.reason = .ambiguous) :
    ∃ keywords key,
      (state.tables.get question.table).keywords question.stride = .done keywords .unknown ∧
        ((Action.text catalogue question.cell).run state).1 = .ok key ∧
          Replies key keywords question.exactOnly (.fail failure effort) ∧
            later.tables = state.tables := by
  obtain ⟨keywords, key, reading, reads, unresolved, refused, tables⟩ :=
    refused_of_fail ended (by simp [ambiguous])
  obtain ⟨cost, formed⟩ := reads.formed
  have small := Table.length_small formed
  obtain rfl := (Table.keywords_eq_done_iff.mp formed).1
  refine ⟨keywords, key, formed, congrArg Prod.fst reads.ended, ?_, tables⟩
  rw [refused, ← (scanned_of_unresolved unresolved).1]
  exact replies_scanned small

/-- An ambiguous lookup of any cell, exact or not, offers all keywords that begin with its text. A
new cell with one of them as its text is then answered with this very keyword, exactly or not, as
long as the table stays as it is. -/
theorem suggestions_resolve
    (ended : (question.ask catalogue).run state = (.ok (.fail failure effort), later))
    (ambiguous : failure.reason = .ambiguous) :
    ∃ keywords key candidates,
      (state.tables.get question.table).keywords question.stride = .done keywords .unknown ∧
      ((Action.text catalogue question.cell).run state).1 = .ok key ∧
      Offers key keywords candidates failure ∧
      later.tables = state.tables ∧
      ∀ candidate, candidate ∈ candidates → ∀ (next : Question Data) (present : State Data),
        present.tables.get next.table = state.tables.get question.table →
          next.stride = question.stride →
            ∃ position cost, keywords[position]? = some candidate ∧
              next.Answers catalogue present candidate (.done (.natural position) cost)
                (some candidate) := by
  obtain ⟨keywords, key, formed, read, replies, tables⟩ := replies_of_ambiguous ended ambiguous
  obtain ⟨nonempty, offers⟩ := replies.offers ambiguous
  refine ⟨keywords, key, _, formed, read, offers, tables, ?_⟩
  intro candidate listed next present unchanged stride
  obtain ⟨member, shortens⟩ := List.mem_filter.mp listed
  have filled : candidate ≠ "" := by
    rintro rfl
    exact nonempty (eq_empty_of_abbreviates shortens)
  rw [← unchanged, ← stride] at formed
  exact answers_of_means formed (.exact filled member)

/-- The text of a custom payload begins three keywords of records, two of which are the same.
Abbreviations do not count at first, and they do when a candidate is looked up. -/
theorem suggestions_resolve_records :
    let records : Table := .ofSlots
      [.keyword "10", .other, .keyword "12", .other, .keyword "21", .sentinel, .keyword "12"]
    let state := session .inert
      [.ofPayload (.custom 1) (.existing (.plain ())), .addTable records]
    let question : Question Unit := ⟨⟨0⟩, ⟨0⟩, 2, "option", true⟩
    ∃ failure effort later,
      (question.ask .inert).run state = (.ok (.fail failure effort), later) ∧
        failure.reason = .ambiguous ∧ failure.suggestions = some ["10", "12", "12"] ∧
          ∃ position cost, ["10", "12", "21", "12"][position]? = some "12" ∧
            Question.Answers .inert { question with exactOnly := false } later "12"
              (.done (.natural position) cost) (some "12") := by
  intro records state question
  have unkept : state.resolution? .inert question.cell = none := by decide +kernel
  have formed : (state.tables.get question.table).keywords question.stride =
      .done ["10", "12", "21", "12"] .unknown := Table.keywords_of_result (by decide +kernel)
  have read : ((Action.text .inert question.cell).run state).1 = .ok "1" := rfl
  have frees : ∀ representation,
      (state.cells.get question.cell).representation = some representation →
        Catalogue.inert.Frees representation.type := by
    intro representation held
    cases held
    exact fun _ _ => rfl
  obtain ⟨later, ended, _, _⟩ := run_ask_of_unkept unkept formed read frees
  have unresolved :
      (Scan.run "1" ["10", "12", "21", "12"]).resolved? question.exactOnly = none := by
    decide +kernel
  obtain ⟨_, failure, failed, reason, _⟩ := scanned_of_unresolved unresolved
  rw [failed] at ended
  have ambiguous : failure.reason = .ambiguous := reason.trans (by decide +kernel)
  obtain ⟨keywords, key, candidates, known, shown, offers, tables, found⟩ :=
    suggestions_resolve ended ambiguous
  cases known.symm.trans formed
  cases shown.symm.trans read
  have listed : candidates = ["10", "12", "12"] := offers.complete.trans (by decide +kernel)
  subst listed
  exact ⟨failure, _, later, ended, ambiguous, offers.suggestions,
    found "12" (by simp) { question with exactOnly := false } later (by rw [tables]) rfl⟩

end Question

end CommandWords
