/-
This file shows that the flags of interpreters are dynamically scoped: a script does what its text
says, and every scope leaves the flags as it found them.
-/

import CommandWords.Proofs.Interpreter.Overlay

namespace CommandWords

variable {Data : Type} {catalogue : Catalogue Data}

namespace Action

variable {start : Store (Interpreter (CellRef Data))} {scopes : List (Scope Data)}

variable (catalogue scopes) in
/-- A report finds the flags of the open scopes in its interpreter. -/
theorem matches_reportUsage {interpreter : InterpreterRef Data} (exist : start.has interpreter)
    (count : Number) (words : List (CellRef Data)) (message : Option String) :
    Matches (.within start scopes)
      (reportWithin catalogue scopes start interpreter count words message)
      (reportUsage catalogue interpreter count words message) := by
  intro first second pairs
  cases pairs with
  | @beside others ledger paired logged =>
      obtain ⟨rfl, same⟩ := paired
      let current := first.interpreters.get interpreter
      let options : UsageOptions Data :=
        { message
          dispatch := Scope.dispatchWithin scopes start interpreter
          previous :=
            if Scope.alternateWithin scopes start interpreter then some current.result else none
          literalFirstWord := current.configuration.usage.literalFirstWord }
      have found : (first.beside (Scope.overlay scopes first.interpreters) ledger).usageOptions
          interpreter message = options := by
        simp only [State.usageOptions, State.beside, Scope.overlay, options, current,
          same.dispatchWithin exist, same.alternateWithin exist]
      rw [run_reportUsage, found]
      refine Matches.bind (agrees_usageText catalogue (firstWords count words) options) ?_ first _
        (.beside ⟨rfl, same⟩ logged)
      exact agrees_writeResult Pairing.reports_within interpreter

theorem addInterpreter_within (opened : ∀ scope ∈ scopes, start.has scope.interpreter)
    (configuration : Configuration) :
    (addInterpreter configuration : Action Data _).Agrees (.within start scopes) := by
  apply agrees_addInterpreter
  intro first second paired
  obtain ⟨rfl, same⟩ := paired
  refine ⟨rfl, ?_, same.add _⟩
  exact (Scope.overlay_add (fun scope member => same.ne_next (opened scope member)) _).symm

theorem matches_perform (opened : ∀ scope ∈ scopes, start.has scope.interpreter)
    {operation : Operation Data} (unassigned : ¬ operation.Assigns)
    (among : ∀ interpreter, operation.reporter? = some interpreter → start.has interpreter) :
    Matches (.within start scopes) (performWithin catalogue scopes start operation)
      ((fun _ => ()) <$> operation.perform catalogue) := by
  by_cases attends : operation.Attends
  · cases operation with
    | addInterpreter configuration =>
        exact ((addInterpreter_within opened configuration).map _).map _
    | setAlternate interpreter alternate => exact absurd trivial unassigned
    | setDispatch interpreter dispatch => exact absurd trivial unassigned
    | reportUsage interpreter count words message =>
        have reports := matches_reportUsage catalogue scopes (among interpreter rfl) count words
          message
        rw [Operation.perform, Functor.map_map]
        rwa [← id_map (reportUsage catalogue interpreter count words message)] at reports
    | configureLedger limit enabled =>
        exact ((agrees_changeLedger fun logged =>
          congrArg (Ledger.configure · limit enabled) logged).map _).map _
    | logEvent event => exact ((agrees_record Pairing.records_within event).map _).map _
    | clearLedger =>
        exact ((agrees_changeLedger fun logged => congrArg Ledger.clear logged).map _).map _
    | _ => cases attends
  · have agrees : (operation.perform catalogue).Agrees (.within start scopes) :=
      Operation.agrees_perform Pairing.records_within Pairing.reports_within catalogue attends
    cases operation with
    | reportUsage interpreter count words message => exact absurd trivial attends
    | _ => exact agrees.map _

/-- A fault that is caught leaves paired states. -/
theorem Matches.attempt {pairing : Pairing Data} {action other : Action Data Unit}
    (same : Matches pairing action other) : Matches pairing action.attempt other.attempt :=
  fun first second pairs => ⟨rfl, (same first second pairs).2⟩

/-- A scope changes a flag before its body and puts it back afterwards. -/
theorem Matches.scope {interpreter : InterpreterRef Data} {scope : Scope Data}
    {action body : Action Data Unit}
    (opening closing : Interpreter (CellRef Data) → Interpreter (CellRef Data))
    (opens : ∀ interpreters, (Scope.overlay scopes interpreters).set interpreter
      (opening ((Scope.overlay scopes interpreters).get interpreter)) =
        Scope.overlay (scope :: scopes) interpreters)
    (closes : ∀ interpreters, SameFlags start interpreters →
      (Scope.overlay (scope :: scopes) interpreters).set interpreter
        (closing ((Scope.overlay (scope :: scopes) interpreters).get interpreter)) =
          Scope.overlay scopes interpreters)
    (inside : Matches (.within start (scope :: scopes)) action body) {first second : State Data}
    (pairs : (Pairing.within start scopes).Pairs first second) :
    let ended := body.run (second.updateInterpreter interpreter opening)
    ended.1 = (action.run first).1 ∧ (Pairing.within start scopes).Pairs (action.run first).2
      (ended.2.updateInterpreter interpreter closing) := by
  cases pairs with
  | @beside others ledger paired logged =>
      obtain ⟨rfl, same⟩ := paired
      have opened : (first.beside (Scope.overlay scopes first.interpreters)
          ledger).updateInterpreter interpreter opening =
            first.beside (Scope.overlay (scope :: scopes) first.interpreters) ledger := by
        rw [← opens]
        rfl
      rw [opened]
      obtain ⟨ending, later⟩ := inside first _ (.beside ⟨rfl, same⟩ logged)
      refine ⟨ending, ?_⟩
      generalize (body.run _).2 = changed at later ⊢
      generalize (action.run first).2 = left at later ⊢
      cases later with
      | @beside others ledger paired logged =>
          obtain ⟨rfl, same⟩ := paired
          refine .beside ⟨?_, same⟩ logged
          exact closes left.interpreters same

theorem Matches.withDispatch {interpreter : InterpreterRef Data}
    {dispatch : Dispatch (CellRef Data)} {action body : Action Data Unit}
    (exist : start.has interpreter)
    (inside : Matches (.within start (.dispatch interpreter dispatch :: scopes)) action body) :
    Matches (.within start scopes) action (Action.withDispatch interpreter dispatch body) := by
  intro first second pairs
  have found : (second.interpreters.get interpreter).dispatch =
      Scope.dispatchWithin scopes start interpreter := by
    cases pairs with
    | beside paired logged =>
        obtain ⟨rfl, same⟩ := paired
        exact same.dispatchWithin exist scopes
  -- What is put back is what the outer scopes say, since the body keeps the flags of the start.
  rw [run_withDispatch, found]
  let restored := Scope.dispatchWithin scopes start interpreter
  refine inside.scope (fun current => { current with dispatch := some dispatch })
    (fun inner => { inner with dispatch := restored }) ?_ ?_ pairs
  · intro interpreters
    exact Scope.overlay_dispatch interpreter dispatch
  · intro interpreters same
    simp only [restored, ← same.dispatchWithin exist scopes]
    exact Scope.overlay_undispatch interpreter dispatch

theorem Matches.withAlternate {interpreter : InterpreterRef Data}
    {action body : Action Data Unit} (exist : start.has interpreter)
    (inside : Matches (.within start (.alternate interpreter :: scopes)) action body) :
    Matches (.within start scopes) action (Action.withAlternate interpreter body) := by
  intro first second pairs
  have found : (second.interpreters.get interpreter).alternate =
      Scope.alternateWithin scopes start interpreter := by
    cases pairs with
    | beside paired logged =>
        obtain ⟨rfl, same⟩ := paired
        exact same.alternateWithin exist scopes
  rw [run_withAlternate, found]
  let restored := Scope.alternateWithin scopes start interpreter
  refine inside.scope (fun current => { current with alternate := true })
    (fun inner => { inner with alternate := restored }) ?_ ?_ pairs
  · intro interpreters
    exact Scope.overlay_alternate interpreter
  · intro interpreters same
    simp only [restored, ← same.alternateWithin exist scopes]
    exact Scope.overlay_unalternate interpreter

end Action

namespace Script

variable {start : Store (Interpreter (CellRef Data))}

/-- Wherever a script comes to, its interpreters have the flags that the text says. -/
theorem matches_run (catalogue : Catalogue Data) {script : Script Data}
    (unassigned : script.Unassigned) (among : script.Among start) {scopes : List (Scope Data)}
    (exist : ∀ scope ∈ scopes, start.has scope.interpreter) :
    Action.Matches (.within start scopes) (script.runWithin catalogue start scopes)
      (script.run catalogue) := by
  induction script generalizing scopes with
  | skip => exact Action.agrees_pure ()
  | step operation => exact Action.matches_perform exist unassigned among
  | throw fault => exact Action.agrees_fail fault
  | andThen first rest firstHypothesis restHypothesis =>
      refine (firstHypothesis unassigned.1 among.1 exist).bind fun _ => ?_
      exact restHypothesis unassigned.2 among.2 exist
  | attempt body bodyHypothesis => exact (bodyHypothesis unassigned among exist).attempt
  | withDispatch interpreter dispatch body bodyHypothesis =>
      refine Action.Matches.withDispatch among.1 (bodyHypothesis unassigned among.2 ?_)
      exact List.forall_mem_cons.mpr ⟨among.1, exist⟩
  | withAlternate interpreter body bodyHypothesis =>
      refine Action.Matches.withAlternate among.1 (bodyHypothesis unassigned among.2 ?_)
      exact List.forall_mem_cons.mpr ⟨among.1, exist⟩

/-- A script that assigns no flag does what its text says, and leaves all flags as they were. -/
theorem run_eq_runWithin (catalogue : Catalogue Data) {script : Script Data} {state : State Data}
    (unassigned : script.Unassigned) (among : script.Among state.interpreters) :
    (script.run catalogue).run state =
      (script.runWithin catalogue state.interpreters []).run state ∧
        SameFlags state.interpreters ((script.run catalogue).run state).2.interpreters := by
  -- Without an open scope the overlay is the store itself, so both runs start in the same state.
  have pairs : (Pairing.within state.interpreters []).Pairs state
      (state.beside (Scope.overlay [] state.interpreters) state.ledger) :=
    .beside ⟨rfl, .refl state.interpreters⟩ rfl
  have none : ∀ scope ∈ ([] : List (Scope Data)), state.interpreters.has scope.interpreter := by
    simp
  obtain ⟨ending, later⟩ := matches_run catalogue unassigned among none state _ pairs
  change ((script.run catalogue).run state).1 = _ at ending
  change Pairing.Pairs _ _ ((script.run catalogue).run state).2 at later
  generalize (script.run catalogue).run state = ended at ending later ⊢
  generalize (script.runWithin catalogue _ []).run state = plain at ending later ⊢
  obtain ⟨ending, changed⟩ := ended
  obtain ⟨plainEnding, left⟩ := plain
  cases ending
  cases later with
  | @beside others ledger paired logged =>
      obtain ⟨rfl, same⟩ := paired
      cases logged
      exact ⟨rfl, same⟩

end Script

/-- The second state differs from the first one in the flags of interpreters only. -/
def State.SameButFlags (first second : State Data) : Prop :=
  ∃ interpreters : Store (Interpreter (CellRef Data)),
    second = { first with interpreters } ∧ interpreters.size = first.interpreters.size ∧
      ∀ interpreter,
        (interpreters.get interpreter).result = (first.interpreters.get interpreter).result ∧
          (interpreters.get interpreter).configuration =
            (first.interpreters.get interpreter).configuration

namespace State.SameButFlags

variable {first second : State Data}

theorem refl (state : State Data) : state.SameButFlags state :=
  ⟨state.interpreters, rfl, rfl, fun _ => ⟨rfl, rfl⟩⟩

/-- An update that keeps results and settings changes flags only. -/
theorem update (same : first.SameButFlags second) (interpreter : InterpreterRef Data)
    {flags : Interpreter (CellRef Data) → Interpreter (CellRef Data)}
    (results : ∀ current, (flags current).result = current.result)
    (settings : ∀ current, (flags current).configuration = current.configuration) :
    first.SameButFlags (second.updateInterpreter interpreter flags) := by
  obtain ⟨interpreters, rfl, size, entries⟩ := same
  refine ⟨interpreters.set interpreter (flags (interpreters.get interpreter)), rfl, size, ?_⟩
  intro other
  by_cases equal : other = interpreter
  · subst equal
    rw [Store.get_set_self, results, settings]
    exact entries other
  · rw [Store.get_set_other _ equal]
    exact entries other

theorem setDispatch (same : first.SameButFlags second) (interpreter : InterpreterRef Data)
    (dispatch : Option (Dispatch (CellRef Data))) :
    first.SameButFlags (second.setDispatch interpreter dispatch) :=
  same.update interpreter (fun _ => rfl) fun _ => rfl

theorem setAlternate (same : first.SameButFlags second) (interpreter : InterpreterRef Data)
    (alternate : Bool) : first.SameButFlags (second.setAlternate interpreter alternate) :=
  same.update interpreter (fun _ => rfl) fun _ => rfl

end State.SameButFlags

namespace Script

variable {script : Script Data} {state raised : State Data} {fault : Fault}

/-- A fault leaves all scopes around it, and nothing but flags changes on the way out. -/
theorem Raises.run (raises : Raises catalogue script state fault raised) :
    ((script.run catalogue).run state).1 = .error fault ∧
      raised.SameButFlags ((script.run catalogue).run state).2 := by
  induction raises with
  | thrown => exact ⟨rfl, .refl _⟩
  | failed ended =>
      rw [Script.run, Action.run_map, ended]
      exact ⟨rfl, .refl _⟩
  | @first first rest state raised fault inside inductionHypothesis =>
      rw [Script.run, Action.run_bind]
      generalize (first.run catalogue).run state = ended at inductionHypothesis ⊢
      obtain ⟨ending, changed⟩ := ended
      obtain ⟨rfl, same⟩ := inductionHypothesis
      exact ⟨rfl, same⟩
  | rest ended inside inductionHypothesis =>
      rw [Script.run, Action.run_bind_ok ended]
      exact inductionHypothesis
  | dispatch inside inductionHypothesis =>
      obtain ⟨ending, same⟩ := inductionHypothesis
      exact ⟨ending, same.setDispatch _ _⟩
  | alternate inside inductionHypothesis =>
      obtain ⟨ending, same⟩ := inductionHypothesis
      exact ⟨ending, same.setAlternate _ _⟩

/-- Every fault that ends a script was raised by one of its steps. -/
theorem raises_of_error (ended : ((script.run catalogue).run state).1 = .error fault) :
    ∃ raised, Raises catalogue script state fault raised := by
  induction script generalizing state with
  | skip => cases ended
  | step operation =>
      rw [Script.run, Action.run_map] at ended
      cases performed : (operation.perform catalogue).run state with
      | mk ending later =>
          rw [performed] at ended
          cases ending with
          | ok answer => cases ended
          | error raised =>
              cases ended
              exact ⟨later, .failed performed⟩
  | throw thrown =>
      cases ended
      exact ⟨state, .thrown⟩
  | andThen first rest firstHypothesis restHypothesis =>
      rw [Script.run, Action.run_bind] at ended
      cases begun : (first.run catalogue).run state with
      | mk ending later =>
          rw [begun] at ended
          cases ending with
          | ok value =>
              obtain ⟨raised, inside⟩ := restHypothesis ended
              exact ⟨raised, .rest begun inside⟩
          | error stopped =>
              cases ended
              obtain ⟨raised, inside⟩ := firstHypothesis (congrArg Prod.fst begun)
              exact ⟨raised, .first inside⟩
  | attempt body bodyHypothesis => cases ended
  | withDispatch interpreter dispatch body bodyHypothesis =>
      obtain ⟨raised, inside⟩ := bodyHypothesis ended
      exact ⟨raised, .dispatch inside⟩
  | withAlternate interpreter body bodyHypothesis =>
      obtain ⟨raised, inside⟩ := bodyHypothesis ended
      exact ⟨raised, .alternate inside⟩

variable (catalogue script state)

/-- What scopes do to a script and to its flags. -/
structure ScopesFlags : Prop where
  /-- A scope for a dispatch runs its body and puts the old dispatch back, whatever the body
  assigned and however it ended. -/
  dispatch : ∀ interpreter applied,
    let inside := (script.run catalogue).run (state.setDispatch interpreter (some applied))
    let ended := ((withDispatch interpreter applied script).run catalogue).run state
    let before := (state.interpreters.get interpreter).dispatch
    ended = (inside.1, inside.2.setDispatch interpreter before) ∧
      (ended.2.interpreters.get interpreter).dispatch = before
  alternate : ∀ interpreter,
    let inside := (script.run catalogue).run (state.setAlternate interpreter true)
    let ended := ((withAlternate interpreter script).run catalogue).run state
    let before := (state.interpreters.get interpreter).alternate
    ended = (inside.1, inside.2.setAlternate interpreter before) ∧
      (ended.2.interpreters.get interpreter).alternate = before
  /-- Every report of the script is worded with the flags that its text says. -/
  text : script.Unassigned → script.Among state.interpreters →
    (script.run catalogue).run state =
      (script.runWithin catalogue state.interpreters []).run state
  flags : script.Unassigned → script.Among state.interpreters →
    SameFlags state.interpreters ((script.run catalogue).run state).2.interpreters
  /-- A fault reaches the caller through all scopes. -/
  faults : ∀ fault, ((script.run catalogue).run state).1 = .error fault ↔
    ∃ raised, Raises catalogue script state fault raised
  /-- What was there when the fault was raised is still there, such as the written results. -/
  kept : ∀ fault raised, Raises catalogue script state fault raised →
    raised.SameButFlags ((script.run catalogue).run state).2

end Script

/-- The flags of interpreters are dynamically scoped. -/
theorem flags_dynamically_scoped (catalogue : Catalogue Data) (script : Script Data)
    (state : State Data) : script.ScopesFlags catalogue state where
  dispatch interpreter applied := ⟨rfl, State.dispatch_setDispatch _ interpreter _⟩
  alternate interpreter := ⟨rfl, State.alternate_setAlternate _ interpreter _⟩
  text unassigned among := (Script.run_eq_runWithin catalogue unassigned among).1
  flags unassigned among := (Script.run_eq_runWithin catalogue unassigned among).2
  faults fault := by
    constructor
    · exact Script.raises_of_error
    · rintro ⟨raised, raises⟩
      exact raises.run.1
  kept fault raised raises := raises.run.2

/-- Two reports in nested scopes before a fault: each shows the word of its innermost dispatch, and
the second one is an alternative. -/
theorem flags_dynamically_scoped_nested :
    let report : Script Unit := .step (.reportUsage ⟨0⟩ 1 [⟨2⟩] none)
    let script : Script Unit :=
      .withDispatch ⟨0⟩ ⟨[⟨0⟩], 1, 1⟩ (.andThen report (.withAlternate ⟨0⟩
        (.withDispatch ⟨0⟩ ⟨[⟨1⟩], 1, 1⟩ (.andThen report (.throw (.raised "stop"))))))
    let state := session .inert [.addInterpreter .standard, .ofText "c", .ofText "b", .ofText "a"]
    let ending := ((script.run .inert).run state).1
    let later := ((script.run .inert).run state).2
    script.Unassigned ∧ script.Among state.interpreters ∧
      (later.interpreters.get ⟨0⟩).result = "wrong # args: should be \"a\" or \"b\"" ∧
        (script.run .inert).run state = (script.runWithin .inert state.interpreters []).run state ∧
          SameFlags state.interpreters later.interpreters ∧
            ∃ fault raised, ending = .error fault ∧
              script.Raises .inert state fault raised := by
  intro report script state ending later
  have unassigned : script.Unassigned := ⟨id, id, trivial⟩
  have exist : state.interpreters.has ⟨0⟩ = true := by decide +kernel
  have reports : report.Among state.interpreters := by
    intro interpreter found
    cases found
    exact exist
  have among : script.Among state.interpreters :=
    ⟨exist, reports, exist, exist, reports, trivial⟩
  have scopes := flags_dynamically_scoped .inert script state
  refine ⟨unassigned, among, by decide +kernel, scopes.text unassigned among,
    scopes.flags unassigned among, ?_⟩
  have stops : ending.toOption.isNone = true := by decide +kernel
  cases stopped : ending with
  | ok value =>
      rw [stopped] at stops
      cases stops
  | error fault =>
      obtain ⟨raised, raises⟩ := (scopes.faults fault).mp stopped
      exact ⟨fault, raised, rfl, raises⟩

end CommandWords
