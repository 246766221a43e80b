/-
This file shows that the counters of the ledger account for every lookup since they were cleared.
Each lookup that is counted is also logged with what it asked for and what it found.
-/

import CommandWords.Proofs.Ledger.Changes
import CommandWords.Proofs.Lookup.CachedAnswer
import CommandWords.Proofs.Number.Total
import CommandWords.Proofs.Session.Surroundings

namespace CommandWords

variable {Data : Type} {catalogue : Catalogue Data}

/-- Why a value that does not fit is refused. -/
def Message.Misfit.reason : Message.Misfit → Reason
  | bad => .noMatch
  | ambiguous => .ambiguous

/-- Whether an outcome is a failure for this reason. -/
def Outcome.failsFor {Value : Type} (reason : Reason) : Outcome Value → Bool
  | done _ _ => false
  | fail failure _ => failure.hasReason reason

/-- A table fails to give its keywords only because it is malformed. -/
theorem Table.reason_of_malformed {table : Table} {stride : Number}
    {failure : Failure Diagnostic} {effort : Effort}
    (unformed : table.keywords stride = .fail failure effort) :
    failure.reason = .invariantViolated := by
  unfold Table.keywords at unformed
  split at unformed
  next =>
    cases unformed
    rfl
  next distance found =>
    split at unformed
    next => cases unformed
    next =>
      cases unformed
      rfl

namespace State

/-- The ledger stays as it is. -/
def SameLedger (first second : State Data) : Prop := second.ledger = first.ledger

instance : IsPreorder (State Data) SameLedger where
  refl _ := rfl
  trans _ _ _ before after := Eq.trans after before

variable (catalogue) in
theorem SameLedger.reporting : Reporting catalogue SameLedger where
  noted _ _ _ _ _ _ := rfl
  object _ _ := rfl
  text _ _ _ _ _ _ _ := rfl
  interpreters _ _ _ := rfl
  registries _ _ := rfl

end State

/-- The ledger does not belong to cells. -/
theorem Action.Inside.ledger {Value : Type} {action : Action Data Value}
    (inside : action.Inside) : action.Relates State.SameLedger := fun state => (inside state).ledger

namespace Question

variable (catalogue) in
/-- The event that tells of an outcome. A scan also tells the text that it compared. -/
inductive Tells (question : Question Data) (state : State Data) :
    Outcome Number → Ledger.Event → Prop
  | hit {index : Number} :
      Tells question state (.done index ⟨some 0, some true⟩) (.hit question.label index)
  | scan {key : String} {index : Number} {count : Nat}
      (read : ((Action.text catalogue question.cell).run state).1 = .ok key) :
      Tells question state (.done index ⟨some (.ofNat count), some false⟩)
        (.scan question.label key index (.ofNat count))
  | fail {key : String} {misfit : Message.Misfit} {failure : Failure Diagnostic} {count : Nat}
      (read : ((Action.text catalogue question.cell).run state).1 = .ok key)
      (reason : failure.reason = misfit.reason) :
      Tells question state (.fail failure ⟨some (.ofNat count), some false⟩)
        (.fail question.label key misfit (.ofNat count))

variable (catalogue) in
/-- The ledger that a lookup leaves. A malformed table and a fault are not recorded. -/
inductive Records (question : Question Data) (state : State Data) :
    Except Fault (Outcome Number) → Ledger → Prop
  | told {outcome : Outcome Number} {event : Ledger.Event}
      (tells : Tells catalogue question state outcome event) :
      Records question state (.ok outcome) (state.ledger.record event)
  | malformed {failure : Failure Diagnostic} (reason : failure.reason = .invariantViolated) :
      Records question state (.ok (.fail failure .unknown)) state.ledger
  | thrown {fault : Fault} : Records question state (.error fault) state.ledger

variable {question : Question Data} {state later : State Data}

theorem Tells.formed {outcome : Outcome Number} {event : Ledger.Event}
    (tells : question.Tells catalogue state outcome event) :
    outcome.failsFor .invariantViolated = false := by
  cases tells with
  | hit => rfl
  | scan read => rfl
  | @fail key misfit failure count read reason =>
      cases misfit <;> simp [Outcome.failsFor, Failure.hasReason, reason, Message.Misfit.reason]

theorem tells_refusal {key : String} (keywords : List String)
    (read : ((Action.text catalogue question.cell).run state).1 = .ok key) :
    question.Tells catalogue state
      ((Scan.run key keywords).refusal question.label key keywords)
      (.fail question.label key (Scan.run key keywords).misfit
        (.ofNat (Scan.run key keywords).comparisons)) := by
  unfold Scan.refusal
  cases (Scan.run key keywords).misfit with
  | bad => exact .fail read rfl
  | ambiguous => exact .fail read rfl

variable (catalogue) in
/-- The text of a cell leaves the ledger alone. -/
theorem ledger_text (cell : CellRef Data) (state : State Data) :
    ((Action.text catalogue cell).run state).2.ledger = state.ledger :=
  Action.relates_text (State.SameLedger.reporting catalogue).toConsulting cell state

theorem Installs.ledger {position : Nat} {ending : Except Fault Unit}
    (installed : question.Installs catalogue state position ending later) :
    later.ledger = state.ledger := by
  have inside := Action.inside_install catalogue question.cell .resolution
    (.object state.objects.next) (state.addObject (.resolution (question.resolution position)))
  rw [installed] at inside
  exact inside.ledger

/-- Every exit of a lookup records what it tells the caller. -/
theorem LookupRun.records {ending : Except Fault (Outcome Number)}
    (asked : LookupRun catalogue question state ending later) :
    question.Records catalogue state ending later.ledger := by
  cases asked with
  | hit kept => exact .told .hit
  | malformed unkept unformed =>
      obtain rfl := Table.effort_of_malformed unformed
      exact .malformed (Table.reason_of_malformed unformed)
  | unread unkept ended =>
      have kept := ledger_text catalogue question.cell state
      rw [ended] at kept
      rw [kept]
      exact .thrown
  | @refused keywords key read reads unresolved =>
      have kept := ledger_text catalogue question.cell state
      rw [reads.ended] at kept
      rw [State.noteEvent, kept]
      exact .told (tells_refusal keywords (congrArg Prod.fst reads.ended))
  | settled reads resolved installed =>
      have kept := ledger_text catalogue question.cell state
      rw [reads.ended] at kept
      rw [State.noteEvent, installed.ledger, kept]
      exact .told (.scan (congrArg Prod.fst reads.ended))
  | lost reads installed =>
      have kept := ledger_text catalogue question.cell state
      rw [reads.ended] at kept
      rw [installed.ledger, kept]
      exact .thrown

variable (catalogue) in
/-- An interpreter writes its result, not the ledger. -/
theorem records_settle (question : Question Data) (interpreter : InterpreterRef Data)
    (state : State Data) :
    question.Records catalogue state ((question.ask catalogue).run state).1
      ((question.ask catalogue >>= Action.settle interpreter).run state).2.ledger := by
  have same : State.SameLedger _ _ := Action.relates_settled
    (fun _ _ _ => rfl) (question.ask catalogue) interpreter state
  rw [same]
  exact (question.ask_run catalogue state).records

end Question

/-- The caller changes the ledger itself. -/
def Operation.WorksOnLedger : Operation Data → Prop
  | configureLedger _ _ => True
  | logEvent _ => True
  | clearLedger => True
  | _ => False

namespace Step

variable {step : Step Data}

variable (catalogue) in
/-- A lookup through an interpreter records what the lookup without one does. -/
theorem records {question : Question Data}
    (asks : step.operation.question? step.before = some question) :
    question.Records catalogue step.before ((question.ask catalogue).run step.before).1
      (step.after catalogue).ledger := by
  obtain ⟨state, operation⟩ := step
  cases operation with
  | lookup question =>
      cases asks
      rw [Step.after, Operation.perform, Action.run_map_after]
      exact (question.ask_run catalogue state).records
  | resolve interpreter cell table stride label exact =>
      cases asks
      rw [Step.after, Operation.perform, Action.run_map_after, Action.run_resolve]
      exact Question.records_settle catalogue _ interpreter state
  | _ => cases asks

theorem ledger_of_relates {Value : Type} {action : Action Data Value}
    (relates : action.Relates State.SameLedger) (function : Value → Answer Data)
    (state : State Data) : ((function <$> action).run state).2.ledger = state.ledger :=
  relates.map function state

/-- Other operations leave the ledger alone. -/
theorem ledger_of_unasked (unasked : step.operation.question? step.before = none)
    (apart : ¬ step.operation.WorksOnLedger) :
    (step.after catalogue).ledger = step.before.ledger := by
  obtain ⟨state, operation⟩ := step
  have reporting : State.Reporting catalogue State.SameLedger :=
    State.SameLedger.reporting catalogue
  have consulting := reporting.toConsulting
  rw [Step.after]
  cases operation with
  | addTable table => rfl
  | changeTable reference table => rfl
  | ofText text => rfl
  | ofPayload type made => exact ledger_of_relates (Action.inside_ofMade type made).ledger _ state
  | readText cell =>
      exact ledger_of_relates (Action.relates_text consulting cell) _ state
  | invalidateText cell =>
      exact ledger_of_relates (Action.relates_invalidateText cell fun _ => rfl) _ state
  | install cell type made =>
      exact ledger_of_relates (Action.inside_installMade catalogue cell type made).ledger _ state
  | freeRepresentation cell =>
      exact ledger_of_relates (Action.inside_freeRepresentation catalogue cell).ledger _ state
  | duplicate cell =>
      exact ledger_of_relates (Action.inside_duplicate catalogue cell).ledger _ state
  | dispose cell => exact ledger_of_relates (Action.inside_dispose catalogue cell).ledger _ state
  | lookup question => cases unasked
  | addRegistry registry => rfl
  | register registry type =>
      exact ledger_of_relates (Action.relates_register reporting registry type) _ state
  | convert registry cell name =>
      exact ledger_of_relates (Action.inside_convert catalogue registry cell name).ledger _ state
  | showWord mayQuote cell =>
      exact ledger_of_relates (Action.relates_showWord consulting mayQuote cell) _ state
  | usageText words options =>
      exact ledger_of_relates (Action.relates_usageText consulting words options) _ state
  | addInterpreter configuration => rfl
  | writeResult interpreter result => rfl
  | setAlternate interpreter alternate => rfl
  | setDispatch interpreter dispatch => rfl
  | resolve interpreter cell table stride label exact => cases unasked
  | reportUsage interpreter count words message =>
      exact ledger_of_relates
        (Action.relates_reportUsage reporting interpreter count words message) _ state
  | configureLedger limit enabled => exact absurd trivial apart
  | logEvent event => exact absurd trivial apart
  | clearLedger => exact absurd trivial apart

variable (catalogue) (step)

/-- The question of a step with the outcome that was returned, if no fault came instead. -/
def returned? : Option (Question Data × Outcome Number) :=
  match step.operation.question? step.before with
  | none => none
  | some question =>
      match ((question.ask catalogue).run step.before).1 with
      | .ok outcome => some (question, outcome)
      | .error _ => none

/-- The outcome of a step that is a lookup, with the one event that is logged for it. -/
structure Logged : Prop where
  /-- The oldest events make room for the new one. -/
  told : ∀ question outcome, step.returned? catalogue = some (question, outcome) →
    outcome.failsFor .invariantViolated = false →
      ∃ event, question.Tells catalogue step.before outcome event ∧
        (step.after catalogue).ledger.events =
          if step.before.ledger.enabled then
            Ledger.latest step.before.ledger.limit (step.before.ledger.events ++ [event])
          else step.before.ledger.events
  /-- Only a lookup and the caller change the ledger. -/
  untold : (∀ question outcome, step.returned? catalogue = some (question, outcome) →
      outcome.failsFor .invariantViolated = true) →
    ¬ step.operation.WorksOnLedger → (step.after catalogue).ledger = step.before.ledger

end Step

/-- The outcomes of all lookups since the ledger was cleared. The latest one comes first. -/
def outcomes (catalogue : Catalogue Data) : List (Operation Data) → List (Outcome Number)
  | [] => []
  | .clearLedger :: _ => []
  | operation :: earlier =>
      match Step.returned? catalogue ⟨session catalogue earlier, operation⟩ with
      | some (_, outcome) => outcome :: outcomes catalogue earlier
      | none => outcomes catalogue earlier

/-- The counters are what the outcomes add up to. -/
structure Ledger.Counters.Accounts (counters : Ledger.Counters)
    (outcomes : List (Outcome Number)) : Prop where
  hits : counters.hits = outcomes.countP fun outcome => outcome.effort.cached = some true
  scans : counters.scans =
    outcomes.countP fun outcome => outcome.isDone ∧ outcome.effort.cached = some false
  failures : counters.failures =
    outcomes.countP fun outcome => outcome.failsFor .noMatch ∨ outcome.failsFor .ambiguous
  /-- Comparisons are numbers, so each addition rounds. -/
  comparisons : ∃ counts : List Nat,
    (outcomes.filterMap fun outcome => outcome.effort.comparisons) = counts.map .ofNat ∧
      counters.comparisons = .total (counts.map .ofNat)

namespace Ledger.Counters.Accounts

variable {counters : Ledger.Counters} {outcomes : List (Outcome Number)}

theorem zero : Ledger.Counters.zero.Accounts [] := by
  refine ⟨rfl, rfl, rfl, [], rfl, ?_⟩
  rw [List.map_nil, Number.total_nil]
  exact Number.zero_eq_ofNat

/-- The sum of the comparisons does not round as long as it stays small. -/
theorem exact (accounts : counters.Accounts outcomes) {counts : List Nat}
    (compared : (outcomes.filterMap fun outcome => outcome.effort.comparisons) =
      counts.map .ofNat)
    (small : counts.sum < twoPower 53) : counters.comparisons = .natural counts.sum := by
  obtain ⟨others, same, sum⟩ := accounts.comparisons
  rw [sum, ← same, compared]
  exact Number.total_exact small

theorem count {question : Question Data} {state : State Data} {outcome : Outcome Number}
    {event : Ledger.Event} (accounts : counters.Accounts outcomes)
    (tells : question.Tells catalogue state outcome event) :
    (counters.count event).Accounts (outcome :: outcomes) := by
  obtain ⟨hits, scans, failures, counts, compared, sum⟩ := accounts
  cases tells with
  | @hit index =>
      -- A hit adds a zero, which does not move the rounded sum.
      refine ⟨?_, ?_, ?_, 0 :: counts, ?_, ?_⟩
      · simpa [Counters.count, Outcome.effort] using hits
      · simpa [Counters.count, Outcome.effort] using scans
      · simpa [Counters.count, Outcome.failsFor] using failures
      · simpa [Outcome.effort, Number.zero_eq_ofNat] using compared
      · rw [List.map_cons, Number.total_cons, Number.settled_total.add_zero]
        exact sum
  | @scan key index count read =>
      refine ⟨?_, ?_, ?_, count :: counts, ?_, ?_⟩
      · simpa [Counters.count, Outcome.effort] using hits
      · simpa [Counters.count, Outcome.effort, Outcome.isDone] using scans
      · simpa [Counters.count, Outcome.failsFor] using failures
      · simpa [Outcome.effort] using compared
      · rw [List.map_cons, Number.total_cons, ← sum]
        rfl
  | @fail key misfit failure count read reason =>
      refine ⟨?_, ?_, ?_, count :: counts, ?_, ?_⟩
      · simpa [Counters.count, Outcome.effort] using hits
      · simpa [Counters.count, Outcome.effort, Outcome.isDone] using scans
      · cases misfit <;>
          simpa [Counters.count, Outcome.failsFor, Failure.hasReason, reason,
            Message.Misfit.reason] using failures
      · simpa [Outcome.effort] using compared
      · rw [List.map_cons, Number.total_cons, ← sum]
        rfl

/-- A malformed table is not counted. -/
theorem malformed {failure : Failure Diagnostic} (accounts : counters.Accounts outcomes)
    (reason : failure.reason = .invariantViolated) :
    counters.Accounts (.fail failure .unknown :: outcomes) := by
  obtain ⟨hits, scans, failures, counts, compared, sum⟩ := accounts
  refine ⟨?_, ?_, ?_, counts, ?_, sum⟩
  · simpa [Outcome.effort, Effort.unknown] using hits
  · simpa [Outcome.isDone] using scans
  · simpa [Outcome.failsFor, Failure.hasReason, reason] using failures
  · simpa [Outcome.effort, Effort.unknown] using compared

end Ledger.Counters.Accounts

namespace Step

variable {catalogue : Catalogue Data} {step : Step Data}

theorem returned?_eq_some {question : Question Data} {outcome : Outcome Number} :
    step.returned? catalogue = some (question, outcome) ↔
      step.operation.question? step.before = some question ∧
        ((question.ask catalogue).run step.before).1 = .ok outcome := by
  unfold returned?
  cases asks : step.operation.question? step.before with
  | none => simp
  | some asked =>
      cases ended : ((asked.ask catalogue).run step.before).1 with
      | ok found =>
          simp only [ended, Option.some.injEq, Prod.mk.injEq]
          constructor
          · rintro ⟨rfl, rfl⟩
            exact ⟨rfl, ended⟩
          · rintro ⟨rfl, same⟩
            exact ⟨rfl, Except.ok.inj (ended.symm.trans same)⟩
      | error fault =>
          simp only [ended, Option.some.injEq, reduceCtorEq, false_iff, not_and]
          rintro rfl same
          cases ended.symm.trans same

theorem logged (catalogue : Catalogue Data) (step : Step Data) : step.Logged catalogue := by
  constructor
  · intro question outcome returned formed
    obtain ⟨asks, ended⟩ := returned?_eq_some.mp returned
    have records := records catalogue asks
    rw [ended] at records
    generalize (step.after catalogue).ledger = ledger at records ⊢
    cases records with
    | @told outcome event tells => exact ⟨event, tells, step.before.ledger.events_record_eq event⟩
    | malformed reason => simp [Outcome.failsFor, Failure.hasReason, reason] at formed
  · intro unrecorded apart
    cases asks : step.operation.question? step.before with
    | none => exact ledger_of_unasked asks apart
    | some question =>
        have records := records catalogue asks
        generalize ended : ((question.ask catalogue).run step.before).1 = ending at records
        generalize (step.after catalogue).ledger = ledger at records ⊢
        cases records with
        | told tells =>
            have refused := unrecorded question _ (returned?_eq_some.mpr ⟨asks, ended⟩)
            rw [tells.formed] at refused
            cases refused
        | malformed reason => rfl
        | thrown => rfl

end Step

theorem outcomes_cons {operation : Operation Data} (kept : operation ≠ .clearLedger)
    (earlier : List (Operation Data)) :
    outcomes catalogue (operation :: earlier) =
      match Step.returned? catalogue ⟨session catalogue earlier, operation⟩ with
      | some (_, outcome) => outcome :: outcomes catalogue earlier
      | none => outcomes catalogue earlier := by
  cases operation with
  | clearLedger => exact absurd rfl kept
  | _ => rfl

namespace Step

variable {step : Step Data}

/-- A lookup adds its outcome to the account. -/
theorem accounts_asked {question : Question Data} {before : List (Outcome Number)}
    (asks : step.operation.question? step.before = some question)
    (accounts : step.before.ledger.counters.Accounts before) :
    (step.after catalogue).ledger.counters.Accounts
      (match step.returned? catalogue with
        | some (_, outcome) => outcome :: before
        | none => before) := by
  have records := records catalogue asks
  unfold returned?
  simp only [asks]
  generalize ((question.ask catalogue).run step.before).1 = ending at records ⊢
  generalize (step.after catalogue).ledger = ledger at records ⊢
  cases records with
  | told tells =>
      rw [Ledger.counters_record]
      exact accounts.count tells
  | malformed reason => exact accounts.malformed reason
  | thrown => exact accounts

variable (catalogue step) in
/-- Everything else but an event of the caller and a cleared ledger keeps the counters. -/
theorem counters_unasked (unasked : step.operation.question? step.before = none)
    (own : ∀ event, step.operation ≠ .logEvent event) (kept : step.operation ≠ .clearLedger) :
    (step.after catalogue).ledger.counters = step.before.ledger.counters := by
  by_cases works : step.operation.WorksOnLedger
  · obtain ⟨state, operation⟩ := step
    cases operation with
    | configureLedger limit enabled => exact Ledger.counters_configure _ limit enabled
    | logEvent event => exact absurd rfl (own event)
    | clearLedger => exact absurd rfl kept
    | _ => cases works
  · rw [ledger_of_unasked unasked works]

end Step

/-- The counters account for all lookups since the ledger was cleared, unless the caller logs
events of its own. The sum of the comparisons is exact as long as it stays small. Every lookup that
is counted is logged with one event that tells of it. -/
theorem counters_account {operations : List (Operation Data)}
    (own : ∀ event, Operation.logEvent event ∉ operations) :
    let counters := (session catalogue operations).ledger.counters
    counters.Accounts (outcomes catalogue operations) ∧
      (∀ counts : List Nat,
        ((outcomes catalogue operations).filterMap fun outcome => outcome.effort.comparisons) =
            counts.map .ofNat →
          counts.sum < twoPower 53 → counters.comparisons = .natural counts.sum) ∧
        Throughout catalogue (Step.Logged catalogue) operations := by
  intro counters
  suffices accounts : counters.Accounts (outcomes catalogue operations) from
    ⟨accounts, fun counts => accounts.exact, Throughout.of_all (Step.logged catalogue) operations⟩
  induction operations with
  | nil => exact .zero
  | cons operation earlier inductionHypothesis =>
      have accounts := inductionHypothesis fun event member =>
        own event (List.mem_cons_of_mem _ member)
      -- A cleared ledger starts the account anew, whatever came before.
      by_cases cleared : operation = .clearLedger
      · subst cleared
        exact .zero
      · rw [outcomes_cons cleared]
        cases asks : operation.question? (session catalogue earlier) with
        | some question => exact Step.accounts_asked asks accounts
        | none =>
            have unlogged : ∀ event, operation ≠ .logEvent event := by
              rintro event rfl
              exact own event List.mem_cons_self
            have same := Step.counters_unasked catalogue
              ⟨session catalogue earlier, operation⟩ asks unlogged cleared
            simp only [Step.returned?, asks]
            rw [← same] at accounts
            exact accounts

/-- A lookup before the ledger was cleared, an abbreviation, a value that is refused while logging
is off, a malformed table, and a lookup through an interpreter that the cell answers. -/
theorem counters_account_mixed :
    let operations : List (Operation Unit) :=
      [.resolve ⟨0⟩ ⟨0⟩ ⟨0⟩ 1 "option" none, .lookup ⟨⟨0⟩, ⟨0⟩, 0, "option", false⟩,
        .lookup ⟨⟨1⟩, ⟨0⟩, 1, "option", false⟩, .configureLedger (some 1) (some false),
        .lookup ⟨⟨0⟩, ⟨0⟩, 1, "option", false⟩, .clearLedger,
        .lookup ⟨⟨1⟩, ⟨0⟩, 1, "option", false⟩, .addInterpreter .standard, .ofText "x",
        .ofText "sta", .addTable (.ofKeywords ["start", "stop"])]
    (∀ event, Operation.logEvent event ∉ operations) ∧
      (session .inert operations).ledger.counters.Accounts (outcomes .inert operations) ∧
        (session .inert operations).ledger.counters = ⟨1, 1, .natural 4, 1⟩ ∧
          (session .inert operations).ledger.events = [.scan "option" "sta" 0 2] := by
  intro operations
  have own : ∀ event, Operation.logEvent event ∉ operations := by simp [operations]
  refine ⟨own, (counters_account own).1, ?_, ?_⟩
  · decide +kernel
  · decide +kernel

end CommandWords
