/-
This file says when a lookup that asks for exact matches accepts an abbreviation: exactly when the
cell still keeps the answer of an earlier lookup that accepted it.
-/

import CommandWords.Proofs.Lookup.CachedAnswer
import CommandWords.Proofs.Lookup.Justified

namespace CommandWords

variable {Data : Type} {catalogue : Catalogue Data}

/-- A flag of each cell, which a copy takes over and an answer sets anew. -/
def Mark.carryFlags (flags : CellRef Data → Bool) (answer : CellRef Data → Resolution → Bool) :
    Mark Data → CellRef Data → Bool
  | nothing => flags
  | made cell => Function.update flags cell false
  | reset cell => Function.update flags cell false
  | answered cell resolution => Function.update flags cell (answer cell resolution)
  | copied source copy => Function.update flags copy (flags source)
  | disposed cell => Function.update flags cell false

theorem Mark.carryFlags_other {mark : Mark Data} {cell : CellRef Data}
    (untouched : mark.target? ≠ some cell) (flags : CellRef Data → Bool)
    (answer : CellRef Data → Resolution → Bool) :
    mark.carryFlags flags answer cell = flags cell := by
  cases mark with
  | nothing => rfl
  | made target => exact Function.update_of_ne (ne_target untouched rfl) ..
  | reset target => exact Function.update_of_ne (ne_target untouched rfl) ..
  | answered target resolution => exact Function.update_of_ne (ne_target untouched rfl) ..
  | copied source copy => exact Function.update_of_ne (ne_target untouched rfl) ..
  | disposed target => exact Function.update_of_ne (ne_target untouched rfl) ..

namespace Step

variable (catalogue : Catalogue Data) (step : Step Data)

/-- Whether a cell shows something else than the full keyword of its answer after a step. -/
def abbreviates (cell : CellRef Data) (resolution : Resolution) : Bool :=
  let after := step.after catalogue
  match (after.cells.get cell).text, resolution.expand after.tables with
  | some text, .ok keyword => text != keyword
  | _, _ => false

/-- A text that is dropped comes back as the full keyword. -/
def carryShortened (flags : CellRef Data → Bool) : CellRef Data → Bool :=
  let carried := (step.mark catalogue).carryFlags flags (step.abbreviates catalogue)
  match step.operation with
  | .invalidateText cell => Function.update carried cell false
  | _ => carried

end Step

/-- Whether the last lookup that changed a cell accepted an abbreviation, which the cell still
shows. A copy starts with the history of its source. -/
def shortened (catalogue : Catalogue Data) : List (Operation Data) → CellRef Data → Bool
  | [] => fun _ => false
  | operation :: earlier =>
      Step.carryShortened catalogue ⟨session catalogue earlier, operation⟩
        (shortened catalogue earlier)

namespace State

/-- The flag of a cell with an answer tells whether its text is not the full keyword. -/
def Tells (catalogue : Catalogue Data) (state : State Data) (flags : CellRef Data → Bool) :
    Prop :=
  ∀ cell resolution keyword, state.resolution? catalogue cell = some resolution →
    resolution.expand state.tables = .ok keyword →
      (flags cell = true ↔ ∃ text, (state.cells.get cell).text = some text ∧ text ≠ keyword)

theorem Tells.of_prepared {before prepared : State Data} {flags : CellRef Data → Bool}
    (tells : before.Tells catalogue flags) (owned : before.Owned)
    (prepares : before.Prepared catalogue prepared) : prepared.Tells catalogue flags := by
  intro cell resolution keyword kept expanded
  rw [(Frame.of_prepared prepares).resolution? owned (prepares.representation cell)] at kept
  rw [prepares.tables] at expanded
  have told := tells cell resolution keyword kept expanded
  rcases prepares.text_of_kept owned kept with same | ⟨missing, regenerated, found, shown⟩
  · rwa [same]
  · cases expanded.symm.trans found
    rw [told, missing, shown]
    constructor
    · rintro ⟨text, absent, _⟩
      cases absent
    · rintro ⟨text, present, different⟩
      exact absurd (Option.some.inj present).symm different

end State

namespace Step

theorem carryShortened_other {step : Step Data} {cell : CellRef Data}
    (stays : step.operation ≠ .invalidateText cell) (flags : CellRef Data → Bool) :
    step.carryShortened catalogue flags cell =
      (step.mark catalogue).carryFlags flags (step.abbreviates catalogue) cell := by
  obtain ⟨before, operation⟩ := step
  cases operation with
  | invalidateText target =>
      have different : cell ≠ target := by
        rintro rfl
        exact stays rfl
      exact Function.update_of_ne different ..
  | _ => rfl

/-- A cell whose text was to be dropped has no text if it keeps an answer. -/
theorem text_invalidated {before : State Data} {cell : CellRef Data} {resolution : Resolution}
    (kept : (Step.after catalogue ⟨before, .invalidateText cell⟩).resolution? catalogue cell =
      some resolution) :
    ((Step.after catalogue ⟨before, .invalidateText cell⟩).cells.get cell).text = none := by
  have after : Step.after catalogue ⟨before, .invalidateText cell⟩ =
      ((Action.invalidateText cell).run before).2 := Action.run_map_after ..
  rw [after] at kept ⊢
  unfold Action.invalidateText at kept ⊢
  rw [Action.run_bind_ok (Action.run_state before)] at kept ⊢
  cases held : (before.cells.get cell).representation with
  | none =>
      simp only [held, Action.run_fail] at kept
      rw [State.resolution?_of_bare (State.not_holds_of_bare held)] at kept
      cases kept
  | some representation =>
      simp only [held, Action.run_change, State.get_setText]

/-- A step keeps the flags right. -/
theorem tells {step : Step Data} {flags : CellRef Data → Bool}
    (stable : step.Stable catalogue) (owned : step.before.Owned)
    (sound : step.before.Sound catalogue)
    (told : step.before.Tells catalogue flags) :
    (step.after catalogue).Tells catalogue (step.carryShortened catalogue flags) := by
  obtain ⟨prepared, committed, prepares, commit, same⟩ :=
    (step.effect catalogue stable.custom).exists_commit
  have start := (State.Frame.of_prepared prepares).owned owned
  have marked := commit.marked start (stable.safeWrites owned prepares same)
  have justified := sound.of_prepared owned prepares
  have before := told.of_prepared owned prepares
  obtain ⟨filled, _⟩ := commit.tables stable.keepsTables justified
  intro cell resolution keyword kept expanded
  by_cases drops : step.operation = .invalidateText cell
  · obtain ⟨present, operation⟩ := step
    cases drops
    rw [text_invalidated kept]
    simp [carryShortened]
  rw [carryShortened_other drops]
  have answer := kept
  rw [same.resolution?] at answer
  have origin := commit.provenance marked answer
  rw [← same.cells] at origin
  have read := expanded
  rw [same.tables] at read
  generalize marks : step.mark catalogue = mark at origin ⊢
  cases origin with
  | kept untouched earlier shown =>
      rcases shown with shown | ⟨_, dropped⟩
      · rw [(justified.justified earlier).expand_of_tables filled] at read
        rw [Mark.carryFlags_other untouched, shown]
        exact before _ resolution keyword earlier read
      · exact absurd dropped drops
  | answered resolves shown =>
      obtain ⟨key, _, _, _, stored, _⟩ := resolves
      rw [stored] at shown
      rw [Mark.carryFlags, Function.update_self]
      simp [abbreviates, shown, expanded]
  | copied earlier shown =>
      rw [(justified.justified earlier).expand_of_tables filled] at read
      rw [Mark.carryFlags, Function.update_self, shown]
      exact before _ resolution keyword earlier read

end Step

theorem Throughout.tells {operations : List (Operation Data)}
    (stable : Throughout catalogue (Step.Stable catalogue) operations) :
    (session catalogue operations).Tells catalogue (shortened catalogue operations) := by
  induction operations with
  | nil =>
      intro cell resolution keyword kept expanded
      cases kept
  | cons operation earlier inductionHypothesis =>
      obtain ⟨latest, before⟩ := stable
      obtain ⟨remembered, sound⟩ := before.sound
      exact Step.tells latest remembered.owned sound (inductionHypothesis before)

/-- The index that an operation gives back, if it finds one. -/
def Answer.index? : Answer Data → Option Number
  | found (.done index _) => some index
  | resolved index => index
  | _ => none

/-- A lookup succeeds with an index, through an interpreter or without one. -/
def Step.Gives (catalogue : Catalogue Data) (step : Step Data) (index : Number) : Prop :=
  ∃ answer, step.ending catalogue = .ok answer ∧ answer.index? = some index

/-- An operation that gives an index ends as the question that it asks. -/
theorem Step.Gives.done {step : Step Data} {question : Question Data} {index : Number}
    (gives : step.Gives catalogue index)
    (asks : step.operation.question? step.before = some question) :
    ∃ effort, (question.ask catalogue).run step.before =
      (.ok (.done index effort), step.after catalogue) := by
  obtain ⟨answer, ended, given⟩ := gives
  obtain ⟨state, operation⟩ := step
  cases operation with
  | lookup asked =>
      cases asks
      rw [Step.ending, Operation.perform, Action.run_map_ending] at ended
      rw [Step.after, Operation.perform, Action.run_map_after]
      generalize (question.ask catalogue).run state = result at ended ⊢
      obtain ⟨ending, later⟩ := result
      cases ending with
      | error fault => cases ended
      | ok outcome =>
          cases ended
          cases outcome with
          | done found effort =>
              cases given
              exact ⟨effort, rfl⟩
          | fail failure effort => cases given
  | resolve interpreter cell table stride label exact =>
      cases asks
      rw [Step.ending, Operation.perform, Action.run_map_ending, Action.run_resolve,
        Action.run_bind] at ended
      rw [Step.after, Operation.perform, Action.run_map_after, Action.run_resolve,
        Action.run_bind]
      generalize (Question.ask _ catalogue).run state = result at ended ⊢
      obtain ⟨ending, later⟩ := result
      cases ending with
      | error fault => cases ended
      | ok outcome =>
          cases outcome with
          | done found effort =>
              cases ended
              cases given
              exact ⟨effort, rfl⟩
          | fail failure effort =>
              cases ended
              cases given
  | _ => cases asks

namespace Question

/-- The cell keeps this very answer from a lookup that accepted an abbreviation. -/
def ReusesShort (catalogue : Catalogue Data) (operations : List (Operation Data))
    (question : Question Data) (index : Number) : Prop :=
  lastAnswer catalogue operations question.cell =
      some ⟨question.table, question.stride, index⟩ ∧
    shortened catalogue operations question.cell = true

/-- The text of the cell beside the keyword at the index of its answer. -/
def Shows (catalogue : Catalogue Data) (state : State Data) (question : Question Data)
    (index : Number) (text keyword : String) : Prop :=
  ((Action.text catalogue question.cell).run state).1 = .ok text ∧
    (state.tables.get question.table).keywordAt question.stride index = some keyword

variable {question : Question Data} {state later : State Data} {index : Number}

/-- A kept answer is given whether its text is the full keyword or not. -/
theorem shows_of_kept {flags : CellRef Data → Bool} (sound : state.Sound catalogue)
    (told : state.Tells catalogue flags)
    (kept : state.resolution? catalogue question.cell =
      some ⟨question.table, question.stride, index⟩) :
    ∃ text keyword, question.Shows catalogue state index text keyword ∧
      (text = keyword ↔ flags question.cell = false) := by
  obtain ⟨keywords, position, keyword, stands, _⟩ := sound.justified kept
  have read := State.run_text_of_kept kept stands.expand
  have flag := told _ _ _ kept stands.expand
  refine ⟨_, keyword, ⟨read, stands.keywordAt⟩, ?_⟩
  rw [← Bool.not_eq_true, flag]
  cases stored : (state.cells.get question.cell).text with
  | some text => simp
  | none => simp

/-- A lookup that gives an index finds it in the cell or by a scan. -/
theorem LookupRun.cases_of_done {effort : Effort}
    (asked : LookupRun catalogue question state (.ok (.done index effort)) later) :
    (state.keptAnswer? catalogue question.cell question.table question.stride = some index ∧
        later = state.noteEvent (.hit question.label index)) ∨
      ∃ keywords key read position changed event,
        Reads catalogue question state keywords key read ∧
          (Scan.run key keywords).resolved? question.exactOnly = some position ∧
            question.Installs catalogue read position (.ok ()) changed ∧
              index = .ofNat position ∧ later = changed.noteEvent event := by
  generalize ended : (Except.ok (Outcome.done index effort) : Except Fault _) = ending at asked
  cases asked with
  | hit kept =>
      obtain ⟨rfl, _⟩ := Outcome.done.inj (Except.ok.inj ended)
      exact .inl ⟨kept, rfl⟩
  | malformed _ unformed => cases ended
  | unread _ failed => cases ended
  | @refused keywords key _ reads unresolved =>
      have fails := Scan.isFail_refusal (Scan.run key keywords) question.label key keywords
      rw [← Except.ok.inj ended] at fails
      cases fails
  | settled reads resolved installed =>
      have done := Outcome.done.inj (Except.ok.inj ended)
      exact .inr ⟨_, _, _, _, _, _, reads, resolved, installed, done.1, rfl⟩
  | lost reads installed => cases ended

/-- A scan for exact matches accepts nothing but the full keyword. -/
theorem LookupRun.shows_of_unkept {effort : Effort}
    (asked : LookupRun catalogue question state (.ok (.done index effort)) later)
    (exact : question.exactOnly = true)
    (unkept : state.keptAnswer? catalogue question.cell question.table question.stride = none) :
    ∃ keyword, question.Shows catalogue state index keyword keyword := by
  rcases asked.cases_of_done with
    ⟨kept, _⟩ | ⟨keywords, key, read, position, _, _, reads, resolved, _, place, _⟩
  · cases unkept.symm.trans kept
  · rw [exact] at resolved
    obtain ⟨effort, formed⟩ := reads.formed
    have inside := Scan.lt_of_resolved resolved
    have found := Table.keywordAt_of_keywords formed inside
    rw [Scan.eq_of_resolved_exact resolved inside, ← place] at found
    exact ⟨key, by rw [reads.ended], found⟩

/-- A lookup that gives an index changes neither the text that its cell shows nor the keyword. -/
theorem LookupRun.shows_after {effort : Effort} {text keyword : String}
    (asked : LookupRun catalogue question state (.ok (.done index effort)) later)
    (shows : question.Shows catalogue state index text keyword) :
    question.Shows catalogue later index text keyword := by
  obtain ⟨shown, found⟩ := shows
  rcases asked.cases_of_done with
    ⟨_, rfl⟩ | ⟨keywords, key, read, position, changed, event, reads, _, installed, _, rfl⟩
  · exact ⟨(Action.text_noteEvent _ state _).trans shown, found⟩
  · rw [reads.ended] at shown
    cases shown
    obtain ⟨tables, texts⟩ := installed.run.frame
    have before := Action.text_stored catalogue reads.ended
    have stored : ((changed.noteEvent event).cells.get question.cell).text = some text :=
      (texts question.cell).trans before
    have same : (changed.noteEvent event).tables = state.tables :=
      tables.trans reads.prepared.tables
    refine ⟨by rw [Action.run_text_of_stored catalogue stored], ?_⟩
    rw [same]
    exact found

/-- A lookup for exact matches that gives an index has the full keyword as its text, unless the
cell keeps this very answer from a lookup that accepted an abbreviation. Then it never has. -/
theorem exact_text_iff {operations : List (Operation Data)}
    (plain : ∀ operation ∈ operations, operation.Plain)
    (keeps : ∀ operation ∈ operations, operation.KeepsTables)
    {operation : Operation Data}
    (asks : operation.question? (session catalogue operations) = some question)
    (exact : question.exactOnly = true)
    (gives : Step.Gives catalogue ⟨session catalogue operations, operation⟩ index) :
    ∃ text keyword,
      question.Shows catalogue (session catalogue operations) index text keyword ∧
        question.Shows catalogue (session catalogue (operation :: operations)) index text
          keyword ∧
            (text = keyword ↔ ¬ question.ReusesShort catalogue operations index) := by
  have stable : Throughout catalogue (Step.Stable catalogue) operations :=
    Throughout.stable_of_plain plain keeps
  obtain ⟨remembered, sound⟩ := stable.sound
  obtain ⟨effort, ended⟩ := gives.done asks
  have asked := question.ask_run catalogue (session catalogue operations)
  simp only [ended] at asked
  cases kept : (session catalogue operations).keptAnswer? catalogue question.cell
      question.table question.stride with
  | none =>
      obtain ⟨keyword, shows⟩ := asked.shows_of_unkept exact kept
      refine ⟨keyword, keyword, shows, asked.shows_after shows, iff_of_true rfl ?_⟩
      rintro ⟨last, _⟩
      rw [← remembered.answers, ← remembered.owned.keptAnswer?_iff, kept] at last
      cases last
  | some found =>
      have hit := congrArg Prod.fst ((ask_of_kept kept).symm.trans ended)
      have done := Except.ok.inj hit
      obtain ⟨rfl, _⟩ := Outcome.done.inj done
      have answer := remembered.owned.keptAnswer?_iff.mp kept
      obtain ⟨text, keyword, shows, same⟩ := shows_of_kept sound stable.tells answer
      rw [remembered.answers] at answer
      refine ⟨text, keyword, shows, asked.shows_after shows, same.trans ?_⟩
      rw [ReusesShort, ← Bool.not_eq_true]
      exact not_congr (iff_and_self.mpr fun _ => answer)

theorem gives_of_kept
    (kept : state.keptAnswer? catalogue question.cell question.table question.stride =
      some index) : Step.Gives catalogue ⟨state, .lookup question⟩ index := by
  refine ⟨.found (.done index noEffort), ?_, rfl⟩
  rw [Step.ending, Operation.perform, Action.run_map_ending, ask_of_kept kept]
  rfl

/-- A lookup for exact matches after a lookup that accepted an abbreviation. -/
theorem exact_text_iff_abbreviation :
    let operations : List (Operation Unit) :=
      [.lookup ⟨⟨0⟩, ⟨0⟩, 1, "option", false⟩, .ofText "sta",
        .addTable (.ofKeywords ["start", "stop"])]
    let question : Question Unit := ⟨⟨0⟩, ⟨0⟩, 1, "option", true⟩
    let state := session .inert operations
    (∀ operation ∈ operations, operation.Plain) ∧
      (∀ operation ∈ operations, operation.KeepsTables) ∧
        (Operation.lookup question).question? state = some question ∧
          question.exactOnly = true ∧ Step.Gives .inert ⟨state, .lookup question⟩ 0 ∧
            ∃ text keyword, question.Shows .inert state 0 text keyword ∧
              question.Shows .inert (session .inert (.lookup question :: operations)) 0 text
                keyword ∧
                  (text = keyword ↔ ¬ question.ReusesShort .inert operations 0) := by
  intro operations question state
  have plain : ∀ operation ∈ operations, operation.Plain := by
    simp [operations, Operation.Plain]
  have keeps : ∀ operation ∈ operations, operation.KeepsTables := by
    simp [operations, Operation.KeepsTables]
  have kept : state.keptAnswer? .inert question.cell question.table question.stride = some 0 := by
    decide +kernel
  have gives : Step.Gives .inert ⟨state, .lookup question⟩ 0 := gives_of_kept kept
  exact ⟨plain, keeps, rfl, rfl, gives, exact_text_iff plain keeps rfl rfl gives⟩

/-- A lookup for exact matches accepts an abbreviation that an earlier lookup accepted. -/
theorem exact_accepts_abbreviation :
    let operations : List (Operation Unit) :=
      [.lookup ⟨⟨0⟩, ⟨0⟩, 1, "option", false⟩, .ofText "sta",
        .addTable (.ofKeywords ["start", "stop"])]
    let question : Question Unit := ⟨⟨0⟩, ⟨0⟩, 1, "option", true⟩
    let state := session .inert operations
    question.exactOnly = true ∧ Step.Gives .inert ⟨state, .lookup question⟩ 0 ∧
      question.Shows .inert state 0 "sta" "start" ∧
        question.ReusesShort .inert operations 0 := by
  intro operations question state
  have kept : state.keptAnswer? .inert question.cell question.table question.stride = some 0 := by
    decide +kernel
  have stored : (state.cells.get question.cell).text = some "sta" := by decide +kernel
  have keyword : (state.tables.get question.table).keywordAt question.stride 0 = some "start" := by
    decide +kernel
  have last : lastAnswer .inert operations question.cell = some ⟨⟨0⟩, 1, 0⟩ := by
    decide +kernel
  have short : shortened .inert operations question.cell = true := by decide +kernel
  have read := congrArg Prod.fst (Action.run_text_of_stored .inert stored)
  exact ⟨rfl, gives_of_kept kept, ⟨read, keyword⟩, last, short⟩

end Question

end CommandWords
