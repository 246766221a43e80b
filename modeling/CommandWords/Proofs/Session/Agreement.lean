/-
This file compares an action in two states that differ in their interpreters and their ledgers only.
The action ends in the same way and keeps the two states alike.
-/

import CommandWords.Proofs.Session.Operation

namespace CommandWords

variable {Data : Type}

/-- The state with other interpreters and another ledger. -/
def State.beside (state : State Data) (interpreters : Store (Interpreter (CellRef Data)))
    (ledger : Ledger) : State Data :=
  { state with interpreters, ledger }

/-- Which interpreters and which ledgers are compared. -/
structure Pairing (Data : Type) where
  interpreters : Store (Interpreter (CellRef Data)) → Store (Interpreter (CellRef Data)) → Prop
  ledgers : Ledger → Ledger → Prop

namespace Pairing

inductive Pairs (pairing : Pairing Data) (state : State Data) : State Data → Prop
  | beside {interpreters : Store (Interpreter (CellRef Data))} {ledger : Ledger}
      (paired : pairing.interpreters state.interpreters interpreters)
      (logged : pairing.ledgers state.ledger ledger) :
      Pairs pairing state (state.beside interpreters ledger)

/-- An event that both ledgers record leaves them alike. -/
def Records (pairing : Pairing Data) : Prop :=
  ∀ {first second : Ledger} event, pairing.ledgers first second →
    pairing.ledgers (first.record event) (second.record event)

/-- Interpreters that are alike have the same settings, and may get the same result. -/
structure Reports (pairing : Pairing Data) : Prop where
  configured : ∀ {first second} interpreter, pairing.interpreters first second →
    (second.get interpreter).configuration = (first.get interpreter).configuration
  written : ∀ {first second} interpreter (result : String), pairing.interpreters first second →
    pairing.interpreters
      (first.set interpreter { first.get interpreter with result })
      (second.set interpreter { second.get interpreter with result })

end Pairing

namespace Action

variable {Value Result : Type} {pairing : Pairing Data}

/-- From paired states the actions end in the same way, and they keep the states paired. -/
def Matches (pairing : Pairing Data) (action other : Action Data Value) : Prop :=
  ∀ first second, pairing.Pairs first second →
    (other.run second).1 = (action.run first).1 ∧
      pairing.Pairs (action.run first).2 (other.run second).2

/-- The action does not tell paired states apart. -/
abbrev Agrees (pairing : Pairing Data) (action : Action Data Value) : Prop :=
  Matches pairing action action

theorem Matches.bind {action other : Action Data Value}
    {next otherNext : Value → Action Data Result} (before : Matches pairing action other)
    (rest : ∀ value, Matches pairing (next value) (otherNext value)) :
    Matches pairing (action >>= next) (other >>= otherNext) := by
  intro first second pairs
  obtain ⟨same, later⟩ := before first second pairs
  rw [run_bind, run_bind]
  generalize other.run second = other at same later ⊢
  generalize action.run first = ended at same later ⊢
  obtain ⟨ending, changed⟩ := ended
  obtain ⟨_, otherChanged⟩ := other
  cases same
  cases ending with
  | ok value => exact rest value changed otherChanged later
  | error fault => exact ⟨rfl, later⟩

theorem Matches.map {action other : Action Data Value} (function : Value → Result)
    (same : Matches pairing action other) :
    Matches pairing (function <$> action) (function <$> other) :=
  same.bind fun _ _ _ pairs => ⟨rfl, pairs⟩

/-- The action neither reads nor changes an interpreter or the ledger. -/
def Overlooks (action : Action Data Value) : Prop := ∀ pairing, action.Agrees pairing

theorem Overlooks.run_beside {action : Action Data Value} (overlooks : action.Overlooks)
    (state : State Data) (interpreters : Store (Interpreter (CellRef Data))) (ledger : Ledger) :
    action.run (state.beside interpreters ledger) =
      ((action.run state).1, (action.run state).2.beside interpreters ledger) := by
  let pairing : Pairing Data := ⟨fun _ other => other = interpreters, fun _ other => other = ledger⟩
  obtain ⟨same, later⟩ := overlooks pairing state _ (.beside rfl rfl)
  generalize action.run (state.beside interpreters ledger) = ended at same later ⊢
  obtain ⟨ending, changed⟩ := ended
  cases same
  cases later with
  | beside paired logged =>
      cases paired
      cases logged
      rfl

theorem Overlooks.kept {action : Action Data Value} (overlooks : action.Overlooks)
    (state : State Data) :
    (action.run state).2.interpreters = state.interpreters ∧
      (action.run state).2.ledger = state.ledger := by
  have same := overlooks.run_beside state state.interpreters state.ledger
  exact ⟨congrArg (fun ended => ended.2.interpreters) same,
    congrArg (fun ended => ended.2.ledger) same⟩

theorem agrees_pure (value : Value) : (pure value : Action Data Value).Agrees pairing :=
  fun _ _ pairs => ⟨rfl, pairs⟩

theorem agrees_fail (fault : Fault) : (fail fault : Action Data Value).Agrees pairing :=
  fun _ _ pairs => ⟨rfl, pairs⟩

theorem agrees_ofResult (result : Except Fault Value) :
    (ofResult result : Action Data Value).Agrees pairing :=
  fun _ _ pairs => ⟨rfl, pairs⟩

/-- An action may go on with what paired states share. -/
theorem agrees_read {next : State Data → Action Data Value}
    (shared : ∀ present interpreters ledger,
      next (present.beside interpreters ledger) = next present)
    (rest : ∀ present, (next present).Agrees pairing) :
    ((state : Action Data (State Data)) >>= next).Agrees pairing := by
  intro first second pairs
  rw [run_bind_ok (run_state first), run_bind_ok (run_state second)]
  cases pairs with
  | beside paired logged =>
      rw [shared]
      exact rest first first _ (.beside paired logged)

/-- A change of the memory passes by interpreters and ledgers. -/
theorem agrees_change {update : State Data → State Data}
    (passes : ∀ present interpreters ledger,
      update (present.beside interpreters ledger) =
        (update present).beside interpreters ledger) : (change update).Agrees pairing := by
  intro first second pairs
  -- A state is beside its own interpreters, so the update leaves them alone.
  have kept : update first = (update first).beside first.interpreters first.ledger :=
    passes first first.interpreters first.ledger
  have interpreters : (update first).interpreters = first.interpreters :=
    (congrArg State.interpreters kept).trans rfl
  have ledger : (update first).ledger = first.ledger := (congrArg State.ledger kept).trans rfl
  cases pairs with
  | beside paired logged =>
      rw [← interpreters] at paired
      rw [← ledger] at logged
      refine ⟨rfl, ?_⟩
      rw [run_change, run_change, passes]
      exact .beside paired logged

theorem agrees_make (made : Made Data) : (make made).Agrees pairing := by
  cases made with
  | existing payload => exact agrees_pure payload
  | object content =>
      refine agrees_read (fun _ _ _ => rfl) fun present => ?_
      exact (agrees_change fun _ _ _ => rfl).bind fun _ => agrees_pure _

theorem agrees_addCell (cell : Cell Data) : (addCell cell).Agrees pairing := by
  refine agrees_read (fun _ _ _ => rfl) fun present => ?_
  exact (agrees_change fun _ _ _ => rfl).bind fun _ => agrees_pure _

theorem agrees_ofMade (type : TypeId) (made : Made Data) : (ofMade type made).Agrees pairing :=
  (agrees_make made).bind fun _ => agrees_addCell _

theorem agrees_addTable (table : Table) :
    (addTable table : Action Data (Ref Table)).Agrees pairing := by
  refine agrees_read (fun _ _ _ => rfl) fun present => ?_
  exact (agrees_change fun _ _ _ => rfl).bind fun _ => agrees_pure _

theorem agrees_changeTable (reference : Ref Table) (table : Table) :
    (changeTable reference table : Action Data Unit).Agrees pairing :=
  agrees_change fun _ _ _ => rfl

theorem agrees_addRegistry (registry : Registry) :
    (addRegistry registry : Action Data (Ref Registry)).Agrees pairing := by
  refine agrees_read (fun _ _ _ => rfl) fun present => ?_
  exact (agrees_change fun _ _ _ => rfl).bind fun _ => agrees_pure _

theorem agrees_noteCall (type : TypeId) (hook : Hook) (arguments : List (Argument Data)) :
    (noteCall type hook arguments).Agrees pairing := by
  refine (agrees_change fun _ _ _ => rfl).bind fun _ => ?_
  exact agrees_read (fun _ _ _ => rfl) fun present => agrees_pure _

theorem agrees_invalidateText (cell : CellRef Data) :
    (invalidateText cell).Agrees pairing := by
  refine agrees_read (fun _ _ _ => rfl) fun present => ?_
  dsimp only
  split
  · exact agrees_fail _
  · exact agrees_change fun _ _ _ => rfl

section hooks

variable (catalogue : Catalogue Data) (representation : Representation Data)

theorem agrees_callFree : (callFree catalogue representation).Agrees pairing := by
  refine agrees_read (fun _ _ _ => rfl) fun present => ?_
  exact (agrees_noteCall _ _ _).bind fun _ => agrees_ofResult _

theorem agrees_callDuplicate : (callDuplicate catalogue representation).Agrees pairing := by
  refine agrees_read (fun _ _ _ => rfl) fun present => ?_
  refine (agrees_noteCall _ _ _).bind fun view => ?_
  exact (agrees_ofResult _).bind agrees_make

theorem agrees_callRegenerate : (callRegenerate catalogue representation).Agrees pairing := by
  refine agrees_read (fun _ _ _ => rfl) fun present => ?_
  exact (agrees_noteCall _ _ _).bind fun _ => agrees_ofResult _

theorem agrees_callAssign (type : TypeId)
    (assign : View Data → Argument Data → Argument Data → Except Fault (Content Data))
    (target source : Payload Data) : (callAssign type assign target source).Agrees pairing := by
  refine agrees_read (fun _ _ _ => rfl) fun present => ?_
  refine (agrees_noteCall _ _ _).bind fun view => ?_
  refine (agrees_ofResult _).bind fun content => agrees_change fun _ _ _ => ?_
  cases target <;> rfl

end hooks

section cells

variable (catalogue : Catalogue Data) (cell : CellRef Data)

theorem agrees_text : (text catalogue cell).Agrees pairing := by
  refine agrees_read (fun _ _ _ => rfl) fun present => ?_
  dsimp only
  split
  · exact agrees_pure _
  · exact agrees_fail _
  · refine (agrees_callRegenerate catalogue _).bind fun found => ?_
    exact (agrees_change fun _ _ _ => rfl).bind fun _ => agrees_pure found

theorem agrees_callConvert (type : TypeId) :
    (callConvert catalogue type (text catalogue cell)).Agrees pairing := by
  refine (agrees_noteCall _ _ _).bind fun view => ?_
  split
  · exact agrees_ofResult _
  · exact (agrees_text catalogue cell).bind fun _ => agrees_ofResult _

theorem agrees_detach : (detach catalogue cell).Agrees pairing := by
  refine agrees_read (fun _ _ _ => rfl) fun present => ?_
  dsimp only
  split
  · exact agrees_pure ()
  · exact (agrees_change fun _ _ _ => rfl).bind fun _ => agrees_callFree catalogue _

theorem agrees_install (type : TypeId) (payload : Payload Data) :
    (install catalogue cell type payload).Agrees pairing := by
  refine agrees_read (fun _ _ _ => rfl) fun present => ?_
  split
  · exact agrees_callAssign type _ _ payload
  · refine (agrees_detach catalogue cell).bind fun _ => ?_
    exact agrees_change fun _ _ _ => rfl

theorem agrees_installMade (type : TypeId) (made : Made Data) :
    (installMade catalogue cell type made).Agrees pairing :=
  (agrees_make made).bind fun _ => agrees_install catalogue cell type _

theorem agrees_freeRepresentation : (freeRepresentation catalogue cell).Agrees pairing := by
  refine agrees_read (fun _ _ _ => rfl) fun present => ?_
  dsimp only
  split
  · exact agrees_pure ()
  · exact (agrees_text catalogue cell).bind fun _ => agrees_detach catalogue cell

theorem agrees_duplicateRepresentation (representation : Option (Representation Data)) :
    (duplicateRepresentation catalogue representation).Agrees pairing := by
  cases representation with
  | none => exact agrees_pure none
  | some held => exact (agrees_callDuplicate catalogue held).bind fun _ => agrees_pure _

theorem agrees_duplicate : (duplicate catalogue cell).Agrees pairing := by
  refine agrees_read (fun _ _ _ => rfl) fun present => ?_
  exact (agrees_duplicateRepresentation catalogue _).bind fun _ => agrees_addCell _

theorem agrees_dispose : (dispose catalogue cell).Agrees pairing :=
  (agrees_detach catalogue cell).bind fun _ => agrees_change fun _ _ _ => rfl

theorem agrees_register (registry : Ref Registry) (type : TypeId) :
    (register catalogue registry type).Agrees pairing := by
  refine agrees_read (fun _ _ _ => rfl) fun present => ?_
  exact (agrees_ofResult _).bind fun _ => agrees_change fun _ _ _ => rfl

theorem agrees_convertTo (type : TypeId) : (convertTo catalogue cell type).Agrees pairing := by
  refine (agrees_callConvert catalogue cell type).bind fun outcome => ?_
  cases outcome with
  | fail failure effort => exact agrees_pure _
  | done made effort =>
      refine (agrees_make made).bind fun _ => ?_
      exact (agrees_install catalogue cell type _).bind fun _ => agrees_pure _

theorem agrees_convert (registry : Ref Registry) (name : String) :
    (convert catalogue registry cell name).Agrees pairing := by
  refine agrees_read (fun _ _ _ => rfl) fun present => ?_
  split
  · exact agrees_pure _
  · split
    · exact agrees_pure _
    · exact agrees_convertTo catalogue cell _

theorem agrees_showWord (mayQuote : Bool) :
    (showWord catalogue mayQuote cell).Agrees pairing := by
  refine agrees_read (fun _ _ _ => rfl) fun present => ?_
  split
  · exact agrees_ofResult _
  · exact (agrees_text catalogue cell).bind fun _ => agrees_pure _

theorem agrees_showWords (quoteFirst : Bool) (words : List (CellRef Data)) :
    (showWords catalogue quoteFirst words).Agrees pairing := by
  induction words generalizing quoteFirst with
  | nil => exact agrees_pure []
  | cons first rest inductionHypothesis =>
      refine (agrees_showWord catalogue first quoteFirst).bind fun word => ?_
      exact (inductionHypothesis true).bind fun words => agrees_pure _

/-- A usage error is worded without a look at any interpreter. -/
theorem agrees_usageText (words : List (CellRef Data)) (options : UsageOptions Data) :
    (usageText catalogue words options).Agrees pairing :=
  (agrees_showWords catalogue _ _).bind fun _ => agrees_pure _

end cells

/-- A change that leaves the ledgers alike keeps the states paired. -/
theorem agrees_changeLedger {update : Ledger → Ledger}
    (alike : ∀ {first second}, pairing.ledgers first second →
      pairing.ledgers (update first) (update second)) :
    (changeLedger update : Action Data Unit).Agrees pairing := by
  intro first second pairs
  cases pairs with
  | beside paired logged => exact ⟨rfl, .beside paired (alike logged)⟩

/-- A new interpreter gets the same reference in both states. -/
theorem agrees_addInterpreter {configuration : Configuration}
    (alike : ∀ {first second}, pairing.interpreters first second →
      second.size = first.size ∧
        pairing.interpreters (first.add (.fresh configuration)) (second.add (.fresh configuration))) :
    (addInterpreter configuration : Action Data (InterpreterRef Data)).Agrees pairing := by
  intro first second pairs
  cases pairs with
  | @beside interpreters ledger paired logged =>
      obtain ⟨size, grown⟩ := alike paired
      have next : interpreters.next = first.interpreters.next := congrArg Ref.mk size
      exact ⟨congrArg Except.ok next, .beside grown logged⟩

section lookups

variable (records : pairing.Records)

include records

theorem agrees_record (event : Ledger.Event) :
    (record event : Action Data Unit).Agrees pairing :=
  agrees_changeLedger (records event)

variable (catalogue : Catalogue Data)

theorem agrees_settleScan (cell : CellRef Data) (table : Ref Table) (stride : Number)
    (label key : String) (keywords : List String) (exactOnly : Bool) :
    (settleScan catalogue cell table stride label key keywords exactOnly).Agrees pairing := by
  unfold settleScan
  dsimp only
  split
  · exact (agrees_record records _).bind fun _ => agrees_pure _
  · refine (agrees_make _).bind fun payload => ?_
    refine (agrees_install catalogue cell _ payload).bind fun _ => ?_
    exact (agrees_record records _).bind fun _ => agrees_pure _

theorem agrees_ask (question : Question Data) : (question.ask catalogue).Agrees pairing := by
  refine agrees_read (fun _ _ _ => rfl) fun present => ?_
  split
  · exact (agrees_record records _).bind fun _ => agrees_pure _
  · split
    · exact agrees_pure _
    · refine (agrees_text catalogue question.cell).bind fun key => ?_
      exact agrees_settleScan records catalogue _ _ _ _ key _ _

end lookups

section reports

variable (reports : pairing.Reports) (interpreter : InterpreterRef Data)

include reports

theorem agrees_writeResult (result : String) :
    (writeResult interpreter result).Agrees pairing := by
  intro first second pairs
  cases pairs with
  | beside paired logged =>
      exact ⟨rfl, .beside (reports.written interpreter result paired) logged⟩

theorem agrees_settle (outcome : Outcome Number) :
    (settle interpreter outcome).Agrees pairing := by
  cases outcome with
  | done index effort => exact agrees_pure _
  | fail failure effort =>
      exact (agrees_writeResult reports interpreter _).bind fun _ => agrees_pure _

/-- An interpreter reads its settings before it looks up. -/
theorem agrees_resolve (records : pairing.Records) (catalogue : Catalogue Data)
    (cell : CellRef Data) (table : Ref Table) (stride : Number) (label : String)
    (exact : Option Bool) :
    (resolve catalogue interpreter cell table stride label exact).Agrees pairing := by
  intro first second pairs
  have configured : (second.interpreters.get interpreter).configuration =
      (first.interpreters.get interpreter).configuration := by
    cases pairs with
    | beside paired logged => exact reports.configured interpreter paired
  have run : ∀ present : State Data,
      (resolve catalogue interpreter cell table stride label exact).run present =
        (lookup catalogue cell table stride label (exact.getD
          (present.interpreters.get interpreter).configuration.lookup.exactByDefault) >>=
            settle interpreter).run present := fun _ => rfl
  rw [run, run, configured]
  refine Matches.bind ?_ (agrees_settle reports interpreter) first second pairs
  exact agrees_ask records catalogue ⟨cell, table, stride, label, _⟩

end reports

end Action

/-- The operation changes the ledger itself, or it has to do with the flags of interpreters. -/
def Operation.Attends : Operation Data → Prop
  | addInterpreter _ => True
  | setAlternate _ _ => True
  | setDispatch _ _ => True
  | reportUsage _ _ _ _ => True
  | configureLedger _ _ => True
  | logEvent _ => True
  | clearLedger => True
  | _ => False

theorem Operation.agrees_perform {pairing : Pairing Data} (records : pairing.Records)
    (reports : pairing.Reports) (catalogue : Catalogue Data) {operation : Operation Data}
    (apart : ¬ operation.Attends) : (operation.perform catalogue).Agrees pairing := by
  cases operation with
  | addTable table => exact (Action.agrees_addTable table).map _
  | changeTable reference table => exact (Action.agrees_changeTable reference table).map _
  | ofText text => exact (Action.agrees_addCell _).map _
  | ofPayload type made => exact (Action.agrees_ofMade type made).map _
  | readText cell => exact (Action.agrees_text catalogue cell).map _
  | invalidateText cell => exact (Action.agrees_invalidateText cell).map _
  | install cell type made => exact (Action.agrees_installMade catalogue cell type made).map _
  | freeRepresentation cell => exact (Action.agrees_freeRepresentation catalogue cell).map _
  | duplicate cell => exact (Action.agrees_duplicate catalogue cell).map _
  | dispose cell => exact (Action.agrees_dispose catalogue cell).map _
  | lookup question => exact (Action.agrees_ask records catalogue question).map _
  | addRegistry registry => exact (Action.agrees_addRegistry registry).map _
  | register registry type => exact (Action.agrees_register catalogue registry type).map _
  | convert registry cell name => exact (Action.agrees_convert catalogue cell registry name).map _
  | showWord mayQuote cell => exact (Action.agrees_showWord catalogue cell mayQuote).map _
  | usageText words options => exact (Action.agrees_usageText catalogue words options).map _
  | writeResult interpreter result =>
      exact (Action.agrees_writeResult reports interpreter result).map _
  | resolve interpreter cell table stride label exact =>
      refine Action.Matches.map _ ?_
      exact Action.agrees_resolve reports interpreter records catalogue cell table stride label
        exact
  | addInterpreter configuration => exact absurd trivial apart
  | setAlternate interpreter alternate => exact absurd trivial apart
  | setDispatch interpreter dispatch => exact absurd trivial apart
  | reportUsage interpreter count words message => exact absurd trivial apart
  | configureLedger limit enabled => exact absurd trivial apart
  | logEvent event => exact absurd trivial apart
  | clearLedger => exact absurd trivial apart

end CommandWords
