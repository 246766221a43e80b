/-
This file says what a lookup that scans computes: the first keyword that equals its key, or else the
only one that begins with it, or else a failure that lists all keywords.
-/

import CommandWords.Proofs.Lookup.Accounts
import CommandWords.Proofs.Lookup.Verdict

namespace CommandWords

variable {Data : Type} {catalogue : Catalogue Data}

/-- The type frees every payload without a fault. -/
def Catalogue.Frees (catalogue : Catalogue Data) (type : TypeId) : Prop :=
  ∀ view argument, (catalogue.describe type).free view argument = .ok ()

theorem Catalogue.Frees.not_freeFails {state : State Data} {representation : Representation Data}
    {fault : Fault} (frees : catalogue.Frees representation.type) :
    ¬ Action.FreeFails catalogue state representation fault := by
  rintro ⟨calls, failed⟩
  cases (frees _ _).symm.trans failed

theorem Message.badValue_eq (misfit : Misfit) (label value : String) (options : List String) :
    badValue misfit label value options =
      misfit.word ++ " " ++ label ++ " \"" ++ value ++ "\": " ++
        if options = [] then "no valid options" else "must be " ++ choices options := by
  have closing : "\": " = "\"" ++ ": " := rfl
  cases options with
  | nil =>
      have offer : ": no valid options" = ": " ++ "no valid options" := rfl
      simp only [badValue, closing, offer, if_true, String.append_assoc]
  | cons option rest =>
      have offer : ": must be " = ": " ++ "must be " := rfl
      simp only [badValue, closing, offer, List.cons_ne_nil, if_false, String.append_assoc]

namespace Scan

/-- A refusal is a failure that tells the misfit and lists all keywords. -/
theorem refusal_eq (scan : Scan) (label key : String) (keywords : List String) :
    ∃ failure, scan.refusal label key keywords = .fail failure scan.effort ∧
      failure.reason = scan.misfit.reason ∧
        failure.message = Message.badValue scan.misfit label key keywords := by
  unfold refusal
  cases scan.misfit with
  | bad => exact ⟨_, rfl, rfl, rfl⟩
  | ambiguous => exact ⟨_, rfl, rfl, rfl⟩

/-- A key that equals no keyword is ambiguous if it begins several of them. -/
theorem misfit_run {key : String} {keywords : List String}
    (unequal : key = "" ∨ key ∉ keywords) :
    (run key keywords).misfit =
      if key ≠ "" ∧ 2 ≤ keywords.countP (abbreviates key) then .ambiguous else .bad := by
  by_cases nonempty : key = ""
  · simp [run, nonempty, misfit]
  · have absent := unequal.resolve_left nonempty
    simp only [misfit, abbreviated_run nonempty absent, ne_eq, nonempty, not_false_eq_true,
      true_and, Nat.lt_iff_add_one_le]

end Scan

namespace Question

/-- The outcome of a lookup that scans for its key. -/
def scanned (question : Question Data) (key : String) (keywords : List String) : Outcome Number :=
  match (Scan.run key keywords).resolved? question.exactOnly with
  | some position => .done (.ofNat position) (Scan.run key keywords).effort
  | none => (Scan.run key keywords).refusal question.label key keywords

theorem scanned_of_resolved {question : Question Data} {key : String} {keywords : List String}
    {position : Nat}
    (resolved : (Scan.run key keywords).resolved? question.exactOnly = some position) :
    question.scanned key keywords = .done (.ofNat position) (Scan.run key keywords).effort := by
  rw [scanned, resolved]

/-- A key that is not resolved is refused with all keywords. -/
theorem scanned_of_unresolved {question : Question Data} {key : String} {keywords : List String}
    (unresolved : (Scan.run key keywords).resolved? question.exactOnly = none) :
    question.scanned key keywords = (Scan.run key keywords).refusal question.label key keywords ∧
      ∃ failure, question.scanned key keywords = .fail failure (Scan.run key keywords).effort ∧
        failure.reason = (Scan.run key keywords).misfit.reason ∧
          failure.message =
            Message.badValue (Scan.run key keywords).misfit question.label key keywords := by
  have refused : question.scanned key keywords =
      (Scan.run key keywords).refusal question.label key keywords := by
    rw [scanned, unresolved]
  rw [refused]
  exact ⟨rfl, (Scan.run key keywords).refusal_eq question.label key keywords⟩

/-- The outcome of a lookup is what its key and the keywords say without a scan. -/
structure Refers (question : Question Data) (key : String) (keywords : List String)
    (outcome : Outcome Number) : Prop where
  exact : key ≠ "" → key ∈ keywords →
    outcome = .done (.natural (keywords.idxOf key))
      ⟨some (.natural (keywords.idxOf key + 1)), some false⟩
  abbreviated : key ≠ "" → key ∉ keywords → question.exactOnly = false →
    keywords.countP (abbreviates key) = 1 →
      outcome = .done (.natural (keywords.findIdx (abbreviates key)))
        ⟨some (.natural keywords.length), some false⟩
  /-- The ambiguity of a key does not hang on whether abbreviations count. -/
  refused : key = "" ∨ key ∉ keywords ∧
      ¬ (question.exactOnly = false ∧ keywords.countP (abbreviates key) = 1) →
    let several := key ≠ "" ∧ 2 ≤ keywords.countP (abbreviates key)
    let comparisons := if key = "" then 0 else keywords.length
    ∃ failure, outcome = .fail failure ⟨some (.natural comparisons), some false⟩ ∧
      failure.reason = (if several then .ambiguous else .noMatch) ∧
        failure.message =
          (if several then "ambiguous" else "bad") ++ " " ++ question.label ++ " \"" ++ key ++
            "\": " ++ if keywords = [] then "no valid options"
              else "must be " ++ Message.choices keywords

/-- The answer that a cell keeps after a lookup that it did not answer. -/
def keptAfter? (question : Question Data) : Outcome Number → Option Resolution
  | .done index _ => some ⟨question.table, question.stride, index⟩
  | .fail _ _ => none

theorem keptAfter?_scanned (question : Question Data) (key : String) (keywords : List String) :
    question.keptAfter? (question.scanned key keywords) =
      ((Scan.run key keywords).resolved? question.exactOnly).map question.resolution := by
  cases resolved : (Scan.run key keywords).resolved? question.exactOnly with
  | none =>
      obtain ⟨_, failure, failed, _⟩ := scanned_of_unresolved resolved
      rw [failed, keptAfter?, Option.map_none]
  | some position => rw [scanned_of_resolved resolved, keptAfter?, Option.map_some, resolution]

/-- A scan of not too many keywords computes the reference. -/
theorem refers_scanned (question : Question Data) (key : String) {keywords : List String}
    (small : keywords.length < twoPower 53) :
    question.Refers key keywords (question.scanned key keywords) := by
  have counted {count : Nat} (within : count ≤ keywords.length)
      (compared : (Scan.run key keywords).comparisons = count) :
      (Scan.run key keywords).effort = ⟨some (.natural count), some false⟩ := by
    rw [Scan.effort, compared, Number.ofNat_eq_natural (Nat.lt_of_le_of_lt within small)]
  constructor
  · intro nonempty member
    have inside := List.idxOf_lt_length_of_mem member
    have effort := counted inside (by rw [Scan.comparisons_run, if_neg nonempty, if_pos member])
    have resolved : (Scan.run key keywords).resolved? question.exactOnly =
        some (keywords.idxOf key) := by
      rw [Scan.resolved?_run, if_neg nonempty, if_pos member]
    rw [scanned_of_resolved resolved, effort,
      Number.ofNat_eq_natural (Nat.lt_trans inside small)]
  · intro nonempty absent inexact single
    have inside : keywords.findIdx (abbreviates key) < keywords.length := by
      apply List.findIdx_lt_length.mpr
      exact List.countP_pos_iff.mp (by omega)
    have effort := counted (Nat.le_refl _)
      (by rw [Scan.comparisons_run, if_neg nonempty, if_neg absent])
    have resolved : (Scan.run key keywords).resolved? question.exactOnly =
        some (keywords.findIdx (abbreviates key)) := by
      rw [Scan.resolved?_run, if_neg nonempty, if_neg absent, if_pos ⟨inexact, single⟩]
    rw [scanned_of_resolved resolved, effort,
      Number.ofNat_eq_natural (Nat.lt_trans inside small)]
  · intro unresolved
    have unequal : key = "" ∨ key ∉ keywords := unresolved.imp_right And.left
    have nothing : (Scan.run key keywords).resolved? question.exactOnly = none := by
      rw [Scan.resolved?_run]
      rcases unresolved with empty | ⟨absent, several⟩
      · rw [if_pos empty]
      · rw [if_neg absent, if_neg several, ite_self]
    have effort : (Scan.run key keywords).effort =
        ⟨some (.natural (if key = "" then 0 else keywords.length)), some false⟩ := by
      apply counted
      · split <;> omega
      · rw [Scan.comparisons_run]
        split
        next => rfl
        next nonempty => rw [if_neg (unequal.resolve_left nonempty)]
    obtain ⟨_, failure, failed, reason, message⟩ := scanned_of_unresolved nothing
    refine ⟨failure, failed.trans (congrArg _ effort), ?_, ?_⟩
    · rw [reason, Scan.misfit_run unequal]
      split <;> rfl
    · rw [message, Message.badValue_eq, Scan.misfit_run unequal]
      split <;> rfl

variable {question : Question Data} {state later : State Data}

/-- An answer that was installed is the one that the cell keeps. -/
theorem Installs.resolution? {position : Nat}
    (installed : question.Installs catalogue state position (.ok ()) later) :
    later.resolution? catalogue question.cell = some (question.resolution position) := by
  let content : Content Data := .resolution (question.resolution position)
  let answered := state.addObject content
  rcases installed.written with ⟨target, accepted, same⟩ | ⟨_, same⟩
  · cases target with
    | plain value => exact absurd rfl (Action.resolves_of_payload? accepted)
    | object reference =>
        have holds : (answered.setObject (.object reference) content).Holds question.cell
            .resolution (.object reference) := by
          rw [State.Holds, State.cells_setObject]
          exact Action.held_of_payload? accepted
        rw [same.resolution?, State.resolution?_of_holds holds, State.content, State.setObject,
          Store.get_set_self, Content.resolution?]
  · have holds : (answered.setRepresentation question.cell
        (some ⟨.resolution, .object state.objects.next⟩)).Holds question.cell .resolution
          (.object state.objects.next) := by
      rw [State.Holds, State.get_setRepresentation]
    have stored : answered.content (.object state.objects.next) = content :=
      state.get_addObject_next _
    rw [same.resolution?, State.resolution?_of_holds holds]
    exact congrArg Content.resolution? stored

/-- A lookup that refuses a text has read the keywords of its table and the text as its key. -/
theorem refused_of_fail {failure : Failure Diagnostic} {effort : Effort}
    (ended : (question.ask catalogue).run state = (.ok (.fail failure effort), later))
    (wellFormed : failure.reason ≠ .invariantViolated) :
    ∃ keywords key reading, question.Reads catalogue state keywords key reading ∧
      (Scan.run key keywords).resolved? question.exactOnly = none ∧
        .fail failure effort = (Scan.run key keywords).refusal question.label key keywords ∧
          later.tables = state.tables := by
  have asked := question.ask_run catalogue state
  rw [ended] at asked
  generalize same : (.fail failure effort : Outcome Number) = outcome at asked
  cases asked with
  | hit kept => cases same
  | malformed unkept unformed =>
      cases same
      exact absurd (Table.reason_of_malformed unformed) wellFormed
  | refused reads unresolved =>
      exact ⟨_, _, _, reads, unresolved, rfl, reads.prepared.tables⟩
  | settled reads resolved installed => cases same

variable {keywords : List String} {effort : Effort} {key : String}

/-- A key and keywords that are read are the only ones. -/
theorem Reads.unique {others : List String} {text : String} {reading : State Data}
    (reads : question.Reads catalogue state others text reading)
    (formed : (state.tables.get question.table).keywords question.stride = .done keywords effort)
    (read : ((Action.text catalogue question.cell).run state).1 = .ok key) :
    others = keywords ∧ text = key := by
  obtain ⟨cost, also⟩ := reads.formed
  cases also.symm.trans formed
  rw [reads.ended] at read
  cases read
  exact ⟨rfl, rfl⟩

/-- A key is read without a change of what the cell keeps. -/
theorem Reads.resolution? {reading : State Data}
    (reads : question.Reads catalogue state keywords key reading) :
    reading.resolution? catalogue question.cell =
      state.resolution? catalogue question.cell := by
  have objects : reading.objects = state.objects := by
    rw [← Action.objects_text catalogue question.cell state, reads.ended]
  exact State.resolution?_of_objects (reads.prepared.representation question.cell) objects

/-- A cell that keeps no answer is scanned for, and it keeps the answer if there is one. -/
theorem run_ask_of_unkept (unkept : state.resolution? catalogue question.cell = none)
    (formed : (state.tables.get question.table).keywords question.stride = .done keywords effort)
    (read : ((Action.text catalogue question.cell).run state).1 = .ok key)
    (frees : ∀ representation,
      (state.cells.get question.cell).representation = some representation →
        catalogue.Frees representation.type) :
    ∃ later, (question.ask catalogue).run state = (.ok (question.scanned key keywords), later) ∧
      later.tables = state.tables ∧
        later.resolution? catalogue question.cell =
          question.keptAfter? (question.scanned key keywords) := by
  have asked := question.ask_run catalogue state
  obtain ⟨outcome, ended⟩ := asked.ok_of_text read fun held => (frees _ held).not_freeFails
  generalize present : (question.ask catalogue).run state = run at asked ended
  obtain ⟨ending, later⟩ := run
  dsimp only at ended asked
  subst ended
  cases asked with
  | hit kept =>
      rw [State.keptAnswer?, unkept] at kept
      cases kept
  | malformed _ unformed => cases formed.symm.trans unformed
  | @refused found text reading reads unresolved =>
      obtain ⟨rfl, rfl⟩ := reads.unique formed read
      rw [keptAfter?_scanned, unresolved, (scanned_of_unresolved unresolved).1]
      refine ⟨_, rfl, reads.prepared.tables, ?_⟩
      rw [(reading.noteEvent_same _).resolution?, reads.resolution?, unkept, Option.map_none]
  | @settled found text _ installed position reads resolved installs =>
      obtain ⟨rfl, rfl⟩ := reads.unique formed read
      rw [keptAfter?_scanned, resolved, scanned_of_resolved resolved]
      refine ⟨_, rfl, installs.run.frame.1.trans reads.prepared.tables, ?_⟩
      rw [(installed.noteEvent_same _).resolution?, installs.resolution?, Option.map_some]

/-- A cell with nothing but a text is refused if the scan for its text resolves nothing. -/
theorem run_ask_refused (stored : state.cells.get question.cell = ⟨some key, none⟩)
    (formed : (state.tables.get question.table).keywords question.stride = .done keywords effort)
    (unresolved : (Scan.run key keywords).resolved? question.exactOnly = none) :
    ∃ failure later,
      (question.ask catalogue).run state =
          (.ok (.fail failure (Scan.run key keywords).effort), later) ∧
        .fail failure (Scan.run key keywords).effort =
            (Scan.run key keywords).refusal question.label key keywords ∧
          failure.reason = (Scan.run key keywords).misfit.reason := by
  have bare : (state.cells.get question.cell).representation = none := by rw [stored]
  have unkept : state.resolution? catalogue question.cell = none := by
    refine State.resolution?_of_bare fun payload holds => ?_
    cases bare.symm.trans holds
  have read : (Action.text catalogue question.cell).run state = (.ok key, state) :=
    Action.run_text_of_stored catalogue (by rw [stored])
  obtain ⟨later, ended, _, _⟩ := run_ask_of_unkept unkept formed (congrArg Prod.fst read)
    fun representation held => by cases bare.symm.trans held
  obtain ⟨refused, failure, failed, reason, _⟩ := scanned_of_unresolved unresolved
  exact ⟨failure, later, by rw [ended, failed], failed.symm.trans refused, reason⟩

/-- A lookup of a cell that keeps no answer ends with the reference, and the cell keeps its answer
afterwards if there is one. -/
theorem unkept_ask_refers (unkept : state.resolution? catalogue question.cell = none)
    (formed : (state.tables.get question.table).keywords question.stride = .done keywords effort)
    (read : ((Action.text catalogue question.cell).run state).1 = .ok key)
    (frees : ∀ representation,
      (state.cells.get question.cell).representation = some representation →
        catalogue.Frees representation.type) :
    ∃ outcome later, (question.ask catalogue).run state = (.ok outcome, later) ∧
      question.Refers key keywords outcome ∧
        later.resolution? catalogue question.cell = question.keptAfter? outcome := by
  obtain ⟨later, ended, _, kept⟩ := run_ask_of_unkept unkept formed read frees
  have small := Table.length_small formed
  exact ⟨_, later, ended, question.refers_scanned key small, kept⟩

/-- The text of a custom payload begins three keywords of records, two of which are the same. It is
ambiguous even where abbreviations do not count. -/
theorem unkept_ask_refers_ambiguous :
    let records : Table := .ofSlots
      [.keyword "12", .other, .keyword "13", .other, .keyword "12", .other, .sentinel, .other,
        .keyword "1"]
    let state := session .inert
      [.ofPayload (.custom 1) (.existing (.plain ())), .addTable records]
    let question : Question Unit := ⟨⟨0⟩, ⟨0⟩, 2, "option", true⟩
    state.resolution? .inert question.cell = none ∧
      (state.tables.get question.table).keywords question.stride =
        .done ["12", "13", "12"] .unknown ∧
      ((Action.text .inert question.cell).run state).1 = .ok "1" ∧
      (∀ representation, (state.cells.get question.cell).representation = some representation →
        Catalogue.inert.Frees representation.type) ∧
      ∃ failure later,
        (question.ask .inert).run state =
          (.ok (.fail failure ⟨some (.natural 3), some false⟩), later) ∧
        failure.reason = .ambiguous ∧
        failure.message = "ambiguous option \"1\": must be 12, 13, or 12" ∧
        later.resolution? .inert question.cell = none := by
  intro records state question
  have unkept : state.resolution? .inert question.cell = none := by decide +kernel
  have formed : (state.tables.get question.table).keywords question.stride =
      .done ["12", "13", "12"] .unknown := Table.keywords_of_result (by decide +kernel)
  have read : ((Action.text .inert question.cell).run state).1 = .ok "1" := rfl
  have frees : ∀ representation,
      (state.cells.get question.cell).representation = some representation →
        Catalogue.inert.Frees representation.type := by
    intro representation held
    cases held
    exact fun _ _ => rfl
  obtain ⟨outcome, later, ended, refers, kept⟩ := unkept_ask_refers unkept formed read frees
  obtain ⟨failure, rfl, reason, message⟩ := refers.refused (.inr (by decide +kernel))
  exact ⟨unkept, formed, read, frees, failure, later, ended, reason.trans (by decide +kernel),
    message.trans (by decide +kernel), kept⟩

end Question

end CommandWords
