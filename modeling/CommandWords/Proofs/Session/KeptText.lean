/-
This file shows that work on representations never changes the text of a cell, whether the text is
stored or still to be regenerated.
-/

import CommandWords.Proofs.Session.Change
import CommandWords.Proofs.Session.PlainRuns
import CommandWords.Proofs.Session.Turning

namespace CommandWords

variable {Data : Type} {catalogue : Catalogue Data}

namespace State

/-- The text that a type makes of the payload of a representation. Only a resolution needs the
tables for it. -/
def Writes (state : State Data) (catalogue : Catalogue Data) (representation : Representation Data)
    (text : String) : Prop :=
  ∃ view, (representation.type = .resolution → view.tables = state.tables) ∧
    (catalogue.describe representation.type).regenerate view
      (state.argument representation.payload) = .ok text

/-- The text of a cell is the one that it stores, or else the one that its representation makes. -/
inductive Shows (state : State Data) (catalogue : Catalogue Data) (cell : CellRef Data)
    (text : String) : Prop
  | stored (found : (state.cells.get cell).text = some text)
  | written {representation : Representation Data}
      (missing : (state.cells.get cell).text = none)
      (held : (state.cells.get cell).representation = some representation)
      (writes : state.Writes catalogue representation text)

/-- No other cell holds the object of a cell. What its payload refers to was made before. -/
structure Private (state : State Data) (cell : CellRef Data) : Prop where
  made : ∀ type reference,
    (state.cells.get cell).representation = some ⟨type, .object reference⟩ →
      state.objects.has reference = true
  alone : ∀ type reference,
    (state.cells.get cell).representation = some ⟨type, .object reference⟩ →
      ∀ other otherType,
        (state.cells.get other).representation = some ⟨otherType, .object reference⟩ → other = cell
  tables : ∀ representation resolution,
    (state.cells.get cell).representation = some representation →
      state.content representation.payload = .resolution resolution →
        state.tables.has resolution.table = true

end State

/-- The hooks of custom types respect the text of a cell. -/
structure Catalogue.Faithful (catalogue : Catalogue Data) : Prop where
  /-- A payload stands for one text at most. -/
  steady : ∀ number argument first second one other,
    (catalogue.custom number).regenerate first argument = .ok one →
      (catalogue.custom number).regenerate second argument = .ok other → one = other
  /-- A copy stands for the text of the payload that it was made of. -/
  copies : ∀ number payload state copy later text,
    (Action.callDuplicate catalogue ⟨.custom number, payload⟩).run state = (.ok copy, later) →
      state.Writes catalogue ⟨.custom number, payload⟩ text →
        later.Writes catalogue ⟨.custom number, copy⟩ text
  reads : catalogue.Reads

namespace State

variable {state later : State Data} {cell : CellRef Data} {text other : String}
  {representation : Representation Data}

/-- The text of a resolution depends on nothing but its content and the tables. -/
theorem regenerate_of_tables {first second : View Data} {one other : Argument Data}
    (tables : first.tables = second.tables) (content : one.content = other.content) :
    ResolutionType.regenerate first one = ResolutionType.regenerate second other := by
  unfold ResolutionType.regenerate
  rw [tables, content]

theorem regenerate_of_resolution {view : View Data} {argument : Argument Data}
    {resolution : Resolution} (content : argument.content = .resolution resolution) :
    ResolutionType.regenerate view argument = resolution.expand view.tables := by
  rw [ResolutionType.regenerate, content]
  rfl

/-- Only a resolution has a text by the type of resolutions. -/
theorem resolution_of_regenerate {view : View Data} {argument : Argument Data}
    (made : ResolutionType.regenerate view argument = .ok text) :
    ∃ resolution, argument.content = .resolution resolution ∧
      resolution.expand view.tables = .ok text := by
  unfold ResolutionType.regenerate at made
  cases content : argument.content with
  | resolution resolution =>
      rw [content] at made
      exact ⟨resolution, rfl, made⟩
  | vacant =>
      rw [content] at made
      cases made
  | data value =>
      rw [content] at made
      cases made

theorem Writes.of_resolution {payload : Payload Data} {resolution : Resolution}
    (content : state.content payload = .resolution resolution)
    (expanded : resolution.expand state.tables = .ok text) :
    state.Writes catalogue ⟨.resolution, payload⟩ text := by
  refine ⟨⟨state.tables, []⟩, fun _ => rfl, ?_⟩
  have made : ResolutionType.regenerate ⟨state.tables, []⟩ (state.argument payload) =
      resolution.expand state.tables := regenerate_of_resolution content
  exact made.trans expanded

theorem Writes.unique (faithful : catalogue.Faithful)
    (one : state.Writes catalogue representation text)
    (another : state.Writes catalogue representation other) : text = other := by
  obtain ⟨type, payload⟩ := representation
  obtain ⟨first, present, made⟩ := one
  obtain ⟨second, presentToo, madeToo⟩ := another
  cases type with
  | resolution =>
      have same := regenerate_of_tables ((present rfl).trans (presentToo rfl).symm)
        (rfl : (state.argument payload).content = (state.argument payload).content)
      exact Except.ok.inj (made.symm.trans (same.trans madeToo))
  | custom number => exact faithful.steady number _ first second text other made madeToo

theorem Shows.unique (faithful : catalogue.Faithful) (one : state.Shows catalogue cell text)
    (another : state.Shows catalogue cell other) : text = other := by
  cases one with
  | stored found =>
      cases another with
      | stored foundToo => exact Option.some.inj (found.symm.trans foundToo)
      | written missing held writes => cases missing.symm.trans found
  | written missing held writes =>
      cases another with
      | stored found => cases missing.symm.trans found
      | written missingToo heldToo writesToo =>
          obtain rfl := Option.some.inj (held.symm.trans heldToo)
          exact writes.unique faithful writesToo

/-- The same payload makes the same text as long as its content and the tables stay. -/
theorem Writes.of_content (writes : state.Writes catalogue representation text)
    (content : later.content representation.payload = state.content representation.payload)
    (tables : later.tables = state.tables) : later.Writes catalogue representation text := by
  obtain ⟨view, present, made⟩ := writes
  refine ⟨view, fun resolves => (present resolves).trans tables.symm, ?_⟩
  rw [argument, content]
  exact made

/-- A cell that stays keeps its text if the content of its payload stays. -/
theorem Shows.of_cell (shows : state.Shows catalogue cell text)
    (same : later.cells.get cell = state.cells.get cell)
    (content : ∀ representation, (state.cells.get cell).representation = some representation →
      later.content representation.payload = state.content representation.payload)
    (tables : later.tables = state.tables) : later.Shows catalogue cell text := by
  cases shows with
  | stored found => exact .stored (by rw [same, found])
  | written missing held writes =>
      refine .written (by rw [same, missing]) (by rw [same, held]) ?_
      exact writes.of_content (content _ held) tables

theorem Shows.of_same (shows : state.Shows catalogue cell text) (same : state.SameMemory later) :
    later.Shows catalogue cell text :=
  shows.of_cell (by rw [same.cells]) (fun _ _ => same.content _) same.tables

theorem Shows.setText {target : CellRef Data} (shows : state.Shows catalogue cell text)
    (different : target ≠ cell) (written : Option String) :
    (state.setText target written).Shows catalogue cell text :=
  shows.of_cell (get_setText_other _ _ (Ne.symm different) _) (fun _ _ => rfl) rfl

theorem Shows.setRepresentation {target : CellRef Data} (shows : state.Shows catalogue cell text)
    (different : target ≠ cell) (representation : Option (Representation Data)) :
    (state.setRepresentation target representation).Shows catalogue cell text :=
  shows.of_cell (get_setRepresentation_other _ _ (Ne.symm different) _) (fun _ _ => rfl) rfl

/-- An object that is made before a new one keeps its content. -/
theorem content_of_old (old : ∀ reference, representation.payload = .object reference →
      later.objects.get reference = state.objects.get reference) :
    later.content representation.payload = state.content representation.payload := by
  cases made : representation.payload with
  | object reference => exact old reference made
  | plain value => rfl

theorem Private.held_made (own : state.Private cell)
    (held : (state.cells.get cell).representation = some representation)
    {reference : Ref (Content Data)} (object : representation.payload = .object reference) :
    reference.number < state.objects.size := by
  obtain ⟨type, payload⟩ := representation
  subst object
  exact of_decide_eq_true (own.made type reference held)

theorem Prepared.content (prepared : state.Prepared catalogue later) (own : state.Private cell)
    (held : (state.cells.get cell).representation = some representation) :
    later.content representation.payload = state.content representation.payload :=
  content_of_old fun _ object => prepared.object_old (own.held_made held object)

theorem Prepared.own (prepared : state.Prepared catalogue later) (own : state.Private cell) :
    later.Private cell := by
  constructor
  · intro type reference held
    rw [prepared.representation] at held
    have old := of_decide_eq_true (own.made type reference held)
    exact decide_eq_true (Nat.lt_of_lt_of_le old prepared.objectCount)
  · intro type reference held other otherType
    rw [prepared.representation] at held ⊢
    exact own.alone type reference held other otherType
  · intro representation resolution held
    rw [prepared.representation] at held
    rw [prepared.content own held, prepared.tables]
    exact own.tables representation resolution held

/-- A regenerated text is the one that the cell showed before. -/
theorem Prepared.shows (faithful : catalogue.Faithful) (prepared : state.Prepared catalogue later)
    (own : state.Private cell) (shows : state.Shows catalogue cell text) :
    later.Shows catalogue cell text := by
  induction prepared with
  | start => exact shows
  | aside earlier same inductionHypothesis => exact inductionHypothesis.of_same same
  | @object middle earlier content inductionHypothesis =>
      refine inductionHypothesis.of_cell rfl ?_ rfl
      intro representation held
      exact content_of_old fun _ object =>
        get_addObject_old middle ((earlier.own own).held_made held object) content
  | @text middle earlier changed held regenerated missing holds made inductionHypothesis =>
      by_cases same : cell = changed
      · -- The text that is stored from now on is the one that was shown before.
        subst same
        obtain ⟨calls, written⟩ := made
        have writes : middle.Shows catalogue cell regenerated :=
          .written missing holds ⟨⟨middle.tables, calls⟩, fun _ => rfl, written⟩
        obtain rfl := inductionHypothesis.unique faithful writes
        exact .stored (by rw [get_setText])
      · exact inductionHypothesis.setText (Ne.symm same) (some regenerated)

/-- Nothing that happens to the representation of another cell shows in this one. -/
theorem Shows.of_installed {target : CellRef Data} {type : TypeId} {payload : Payload Data}
    {ending : Except Fault Unit} (shows : state.Shows catalogue cell text)
    (own : state.Private cell) (different : target ≠ cell)
    (installed : Action.InstallRun catalogue target type payload state ending later) :
    later.Shows catalogue cell text := by
  cases installed with
  | @assigned assigned content later accepted written same =>
      refine Shows.of_same ?_ same
      refine shows.of_cell (by rw [cells_setObject]) (fun representation held => ?_)
        (tables_setObject ..)
      -- A write into the payload of this cell would need an object that two cells share.
      refine content_of_old fun reference object => state.get_setObject_other ?_ content
      rintro rfl
      have shared := Action.held_of_payload? accepted
      obtain ⟨own_type, own_payload⟩ := representation
      subst object
      exact different (own.alone own_type reference held target type shared)
  | unassigned accepted failed same => exact shows.of_same same
  | replaced separate same =>
      have replaced := shows.setRepresentation different (some ⟨type, payload⟩)
      exact replaced.of_same same
  | lost held failed same => exact (shows.setRepresentation different none).of_same same

theorem Shows.of_detached {target : CellRef Data} {ending : Except Fault Unit}
    (shows : state.Shows catalogue cell text) (different : target ≠ cell)
    (detached : Action.DetachRun catalogue target state ending later) :
    later.Shows catalogue cell text := by
  have bare := shows.setRepresentation different none
  cases detached with
  | freed same => exact bare.of_same same
  | lost held failed same => exact bare.of_same same

/-- A new table changes no resolution that was made before. -/
theorem Shows.of_tableAdded (table : Table) (shows : state.Shows catalogue cell text)
    (own : state.Private cell) :
    State.Shows { state with tables := state.tables.add table } catalogue cell text := by
  cases shows with
  | stored found => exact .stored found
  | @written representation missing held writes =>
      refine .written missing held ?_
      obtain ⟨view, present, made⟩ := writes
      obtain ⟨type, payload⟩ := representation
      cases type with
      | custom number => exact ⟨view, nofun, made⟩
      | resolution =>
          refine ⟨⟨state.tables.add table, view.calls⟩, fun _ => rfl, ?_⟩
          obtain ⟨resolution, content, expanded⟩ := resolution_of_regenerate made
          -- The table of a resolution was made before, so it is not the new one.
          have known := own.tables _ resolution held content
          refine (regenerate_of_resolution content).trans ?_
          rw [← expanded, present rfl, Resolution.expand, Resolution.expand,
            Store.get_add_of_has known]

end State

/-- The operation works on representations, as far as this cell goes: it drops no text, and it
installs a payload in the cell only while the text is stored. -/
def Operation.KeepsText (state : State Data) (cell : CellRef Data) : Operation Data → Prop
  | changeTable _ _ => False
  | invalidateText other => other ≠ cell
  | dispose other => other ≠ cell
  | install other _ _ => other = cell → state.Stored cell
  | _ => True

namespace State

variable {state later : State Data} {cell : CellRef Data} {text : String}
  {operation : Operation Data}

theorem Change.shows (faithful : catalogue.Faithful) (own : state.Private cell)
    (known : cell ≠ state.cells.next) (keeps : operation.KeepsText state cell)
    (shows : state.Shows catalogue cell text) (change : Change catalogue operation state later) :
    later.Shows catalogue cell text := by
  cases change with
  | nothing => exact shows
  | tableAdded adds => exact shows.of_tableAdded _ own
  | tableChanged changes =>
      rw [changes] at keeps
      cases keeps
  | textDropped drops =>
      rw [drops] at keeps
      exact shows.setText keeps none
  | @installed target type payload ending later source installed =>
      by_cases same : target = cell
      · -- The old payload may go, because the text does not depend on it any more.
        subst same
        have stored : state.Stored target := by
          rcases source faithful.reads with ⟨_, _, installs⟩ | stored
          · rw [installs] at keeps
            exact keeps rfl
          · exact stored
        obtain ⟨found, present⟩ := stored
        obtain rfl := shows.unique faithful (.stored present)
        exact .stored (by rw [installed.frame.2, present])
      · exact shows.of_installed own same installed
  | @detached target ending later source detached =>
      by_cases same : target = cell
      · subst same
        rcases source with disposes | ⟨found, present⟩
        · rw [disposes] at keeps
          exact absurd rfl keeps
        · obtain rfl := shows.unique faithful (.stored present)
          exact .stored (by rw [detached.text, present])
      · exact shows.of_detached same detached
  | disposed disposes =>
      rw [disposes] at keeps
      exact (shows.setRepresentation keeps none).setText keeps none
  | born cell => exact shows.of_cell (get_addCell_other _ known _) (fun _ _ => rfl) rfl

/-- A stored text stays until it is dropped or its cell is disposed of. -/
theorem Change.text_stored (known : cell ≠ state.cells.next)
    (undropped : operation ≠ .invalidateText cell) (undisposed : operation ≠ .dispose cell)
    (found : (state.cells.get cell).text = some text)
    (change : Change catalogue operation state later) :
    (later.cells.get cell).text = some text := by
  cases change with
  | nothing => exact found
  | tableAdded adds => exact found
  | tableChanged changes => exact found
  | @textDropped dropped drops =>
      have different : cell ≠ dropped := by
        rintro rfl
        exact undropped drops
      rw [get_setText_other _ _ different, found]
  | installed source installed => rw [installed.frame.2, found]
  | detached source detached => rw [detached.text, found]
  | @disposed disposed disposes =>
      have different : cell ≠ disposed := by
        rintro rfl
        exact undisposed disposes
      rw [get_setText_other _ _ different, get_setRepresentation_other _ _ different, found]
  | born cell => rw [get_addCell_other _ known, found]

end State

namespace Step

variable {step : Step Data} {cell : CellRef Data} {text : String}

theorem shows_after (faithful : catalogue.Faithful)
    (known : step.before.cells.has cell = true) (own : step.before.Private cell)
    (keeps : step.operation.KeepsText step.before cell)
    (shows : step.before.Shows catalogue cell text) :
    (step.after catalogue).Shows catalogue cell text := by
  obtain ⟨prepared, changed, prepares, change, same⟩ := (step.changed catalogue).exists_change
  have known_prepared : prepared.cells.has cell = true := by
    rw [Store.has, prepares.cellCount]
    exact known
  have keeps_prepared : step.operation.KeepsText prepared cell := by
    cases asked : step.operation with
    | install other type made =>
        rw [asked] at keeps
        rintro rfl
        obtain ⟨found, stored⟩ := keeps rfl
        exact ⟨found, prepares.text_stored stored⟩
    | _ =>
        rw [asked] at keeps
        exact keeps
  have shows_prepared := prepares.shows faithful own shows
  have shows_changed := change.shows faithful (prepares.own own) (Store.ne_next_of_has known_prepared)
    keeps_prepared shows_prepared
  exact shows_changed.of_same same

theorem text_stored_after (known : step.before.cells.has cell = true)
    (undropped : step.operation ≠ .invalidateText cell)
    (undisposed : step.operation ≠ .dispose cell)
    (found : (step.before.cells.get cell).text = some text) :
    ((step.after catalogue).cells.get cell).text = some text := by
  obtain ⟨prepared, changed, prepares, change, same⟩ := (step.changed catalogue).exists_change
  have known_prepared : prepared.cells.has cell = true := by
    rw [Store.has, prepares.cellCount]
    exact known
  rw [same.cells]
  exact change.text_stored (Store.ne_next_of_has known_prepared) undropped undisposed
    (prepares.text_stored found)

/-- The step keeps the text of a cell, and the payload of the cell stays its own. -/
structure Keeps (catalogue : Catalogue Data) (cell : CellRef Data) (step : Step Data) : Prop where
  text : step.operation.KeepsText step.before cell
  own : (step.after catalogue).Private cell

end Step

/-- A condition holds at every step that a later run adds to a past one. -/
def During (catalogue : Catalogue Data) (condition : Step Data → Prop)
    (past : List (Operation Data)) : List (Operation Data) → Prop
  | [] => True
  | operation :: earlier =>
      condition ⟨session catalogue (earlier ++ past), operation⟩ ∧
        During catalogue condition past earlier

/-- The payload of a copy makes the text that the payload of the cell makes. -/
theorem Action.writes_of_callDuplicate (faithful : catalogue.Faithful)
    {representation : Representation Data} {state later : State Data} {copy : Payload Data}
    {text : String}
    (ended : (callDuplicate catalogue representation).run state = (.ok copy, later))
    (writes : state.Writes catalogue representation text) :
    later.Writes catalogue ⟨representation.type, copy⟩ text := by
  obtain ⟨type, payload⟩ := representation
  cases type with
  | custom number => exact faithful.copies number payload state copy later text ended writes
  | resolution =>
      rw [run_callDuplicate_resolution] at ended
      cases ended
      obtain ⟨view, present, made⟩ := writes
      refine ⟨view, present, ?_⟩
      rw [← made]
      exact State.regenerate_of_tables rfl (State.get_addObject_next ..)

/-- A copy stores the text that the cell stores, and it has a payload with the same text. -/
theorem Action.shows_of_duplicate (faithful : catalogue.Faithful) {cell copy : CellRef Data}
    {state later : State Data} {text : String}
    (ended : (duplicate catalogue cell).run state = (.ok copy, later))
    (shows : state.Shows catalogue cell text) : later.Shows catalogue copy text := by
  have run := duplicate_run catalogue cell state
  rw [ended] at run
  cases run with
  | bare held =>
      cases shows with
      | stored found =>
          exact .stored ((congrArg Cell.text (State.get_addCell_next state _)).trans found)
      | written missing holds writes => cases held.symm.trans holds
  | @copied representation payload made held called =>
      have fresh := State.get_addCell_next made
        ⟨(state.cells.get cell).text, some ⟨representation.type, payload⟩⟩
      cases shows with
      | stored found => exact .stored ((congrArg Cell.text fresh).trans found)
      | written missing holds writes =>
          obtain rfl := Option.some.inj (held.symm.trans holds)
          have copied := writes_of_callDuplicate faithful called writes
          exact .written ((congrArg Cell.text fresh).trans missing)
            (congrArg Cell.representation fresh) (copied.of_content rfl rfl)

/-- What a later run keeps at every step, it keeps to the end. -/
theorem During.shows (faithful : catalogue.Faithful) {past later : List (Operation Data)}
    {cell : CellRef Data} {text : String}
    (known : (session catalogue past).cells.has cell = true)
    (own : (session catalogue past).Private cell)
    (shows : (session catalogue past).Shows catalogue cell text)
    (keeps : During catalogue (Step.Keeps catalogue cell) past later) :
    (session catalogue (later ++ past)).cells.has cell = true ∧
      (session catalogue (later ++ past)).Private cell ∧
        (session catalogue (later ++ past)).Shows catalogue cell text := by
  induction later with
  | nil => exact ⟨known, own, shows⟩
  | cons operation earlier inductionHypothesis =>
      obtain ⟨latest, before⟩ := keeps
      obtain ⟨known, own, shows⟩ := inductionHypothesis before
      let step : Step Data := ⟨session catalogue (earlier ++ past), operation⟩
      have shown : (step.after catalogue).Shows catalogue cell text :=
        step.shows_after faithful known own latest.text shows
      exact ⟨Step.has_after known, latest.own, shown⟩

theorem session_text_stored {past run : List (Operation Data)} {cell : CellRef Data}
    {text : String} (known : (session catalogue past).cells.has cell = true)
    (found : ((session catalogue past).cells.get cell).text = some text)
    (keeps : ∀ operation ∈ run, operation ≠ .invalidateText cell ∧ operation ≠ .dispose cell) :
    (session catalogue (run ++ past)).cells.has cell = true ∧
      ((session catalogue (run ++ past)).cells.get cell).text = some text := by
  induction run with
  | nil => exact ⟨known, found⟩
  | cons operation earlier inductionHypothesis =>
      obtain ⟨known, found⟩ := inductionHypothesis fun other member =>
        keeps other (List.mem_cons_of_mem _ member)
      obtain ⟨undropped, undisposed⟩ := keeps operation List.mem_cons_self
      let step : Step Data := ⟨session catalogue (earlier ++ past), operation⟩
      have stored : ((step.after catalogue).cells.get cell).text = some text :=
        step.text_stored_after known undropped undisposed found
      exact ⟨Step.has_after known, stored⟩

/-- Work on representations never changes the text of a cell, nor that of its copies. A stored text
is read by everyone until it is dropped. -/
theorem text_kept (faithful : catalogue.Faithful) {past later : List (Operation Data)}
    {cell : CellRef Data} {text : String}
    (known : (session catalogue past).cells.has cell = true)
    (own : (session catalogue past).Private cell)
    (shows : (session catalogue past).Shows catalogue cell text)
    (keeps : During catalogue (Step.Keeps catalogue cell) past later) :
    let state := session catalogue (later ++ past)
    (∀ other, state.Shows catalogue cell other ↔ other = text) ∧
      (∀ found after, (Action.text catalogue cell).run state = (.ok found, after) →
        found = text) ∧
      (∀ copy after, (Action.duplicate catalogue cell).run state = (.ok copy, after) →
        ∀ other, after.Shows catalogue copy other ↔ other = text) ∧
        (((session catalogue past).cells.get cell).text = some text →
          ∀ run : List (Operation Data),
            (∀ operation ∈ run,
              operation ≠ .invalidateText cell ∧ operation ≠ .dispose cell) →
              ((Action.text catalogue cell).run (session catalogue (run ++ past))).1 =
                .ok text) := by
  intro state
  -- The later run is the induction. What follows is about one state, at the end of it.
  obtain ⟨_, owned, shown⟩ := During.shows faithful known own shows keeps
  have only {present : State Data} {target : CellRef Data}
      (shows : present.Shows catalogue target text) (other : String) :
      present.Shows catalogue target other ↔ other = text := by
    constructor
    · exact fun another => another.unique faithful shows
    · rintro rfl
      exact shows
  refine ⟨only shown, ?_, ?_, ?_⟩
  · intro found after ended
    have prepares := (Action.prepares_text catalogue cell).ended ended
    have read : after.Shows catalogue cell found := .stored (Action.text_stored catalogue ended)
    exact read.unique faithful (prepares.shows faithful owned shown)
  · intro copy after ended
    exact only (Action.shows_of_duplicate faithful ended shown)
  · intro found run untouched
    obtain ⟨_, stored⟩ := session_text_stored known found untouched
    rw [Action.run_text_of_stored catalogue stored]

theorem Catalogue.faithful_inert : Catalogue.inert.Faithful where
  steady number argument first second one other made madeToo :=
    Except.ok.inj (made.symm.trans madeToo)
  copies number payload state copy later text ended writes := by
    cases ended
    obtain ⟨view, present, made⟩ := writes
    exact ⟨view, nofun, made⟩
  reads number view result decided := by
    cases decided
    rfl

/-- Where nothing but lookups and copies make payloads, every cell has its own. -/
theorem State.Owned.own {state : State Data} (owned : state.Owned) (absent : state.NoCustom)
    {cell : CellRef Data}
    (tables : ∀ resolution ∈ state.resolution? catalogue cell,
      state.tables.has resolution.table = true) : state.Private cell := by
  have resolves {other : CellRef Data} {type : TypeId} {payload : Payload Data}
      (held : (state.cells.get other).representation = some ⟨type, payload⟩) :
      state.Holds other .resolution payload := by
    cases type with
    | resolution => exact held
    | custom number => exact absurd held (absent other number payload)
  constructor
  · intro type reference held
    obtain ⟨made, _, equal, known, _⟩ := owned.object (resolves held)
    cases equal
    exact decide_eq_true known
  · intro type reference held other otherType shared
    exact owned.single (resolves shared) (resolves held)
  · intro representation resolution held content
    have kept : state.resolution? catalogue cell = some resolution := by
      rw [State.resolution?_of_holds (resolves held), content]
      rfl
    exact tables resolution kept

/-- A dropped text, a failed lookup in another table, the representation freed and an exact lookup
afterwards. -/
theorem text_kept_dropped :
    let past : List (Operation Unit) :=
      [.invalidateText ⟨0⟩, .lookup ⟨⟨0⟩, ⟨0⟩, 1, "option", false⟩, .ofText "sta",
        .addTable (.ofKeywords ["go", "halt"]), .addTable (.ofKeywords ["start", "stop"])]
    let missing : Operation Unit := .lookup ⟨⟨0⟩, ⟨1⟩, 1, "option", false⟩
    let bare : Operation Unit := .freeRepresentation ⟨0⟩
    let again : Operation Unit := .lookup ⟨⟨0⟩, ⟨0⟩, 1, "option", true⟩
    let later : List (Operation Unit) := [again, bare, missing]
    (session .inert past).cells.has ⟨0⟩ = true ∧ (session .inert past).Private ⟨0⟩ ∧
      (session .inert past).Shows .inert ⟨0⟩ "start" ∧
        During .inert (Step.Keeps .inert ⟨0⟩) past later ∧
          ∀ other, (session .inert (later ++ past)).Shows .inert ⟨0⟩ other ↔ other = "start" := by
  intro past missing bare again later
  have plain : ∀ operation ∈ later ++ past, operation.Plain := by
    simp [later, past, Operation.Plain]
  have own (operations : List (Operation Unit)) (suffix : operations <:+ later ++ past)
      (tables : ∀ resolution ∈ (session .inert operations).resolution? .inert ⟨0⟩,
        (session .inert operations).tables.has resolution.table = true) :
      (session .inert operations).Private ⟨0⟩ := by
    have plain_before : ∀ operation ∈ operations, operation.Plain :=
      fun operation member => plain operation (suffix.subset member)
    have honest : Throughout .inert (Step.Honest .inert) operations :=
      Throughout.honest_of_plain plain_before
    exact honest.remembers.owned.own (Throughout.noCustom_of_plain plain_before) tables
  have known : (session .inert past).cells.has ⟨0⟩ = true := by decide +kernel
  have owned : (session .inert past).Private ⟨0⟩ :=
    own past (List.suffix_append later past) (by decide +kernel)
  have dropped : ((session .inert past).cells.get ⟨0⟩).text = none := by decide +kernel
  have holds : (session .inert past).Holds ⟨0⟩ .resolution (.object ⟨0⟩) := by
    unfold State.Holds
    decide +kernel
  have content : (session .inert past).content (.object ⟨0⟩) = .resolution ⟨⟨0⟩, 1, 0⟩ := by
    decide +kernel
  have keyword : ((session .inert past).tables.get ⟨0⟩).keywordAt 1 0 = some "start" := by
    decide +kernel
  have expanded : Resolution.expand ⟨⟨0⟩, 1, 0⟩ (session .inert past).tables = .ok "start" := by
    rw [Resolution.expand, keyword]
  have writes : (session .inert past).Writes .inert ⟨.resolution, .object ⟨0⟩⟩ "start" :=
    .of_resolution content expanded
  have shows : (session .inert past).Shows .inert ⟨0⟩ "start" := .written dropped holds writes
  have missed : (session .inert (missing :: past)).Private ⟨0⟩ :=
    own (missing :: past) ⟨[again, bare], rfl⟩ (by decide +kernel)
  have freed : (session .inert (bare :: missing :: past)).Private ⟨0⟩ :=
    own (bare :: missing :: past) ⟨[again], rfl⟩ (by decide +kernel)
  have found : (session .inert (again :: bare :: missing :: past)).Private ⟨0⟩ :=
    own (again :: bare :: missing :: past) ⟨[], rfl⟩ (by decide +kernel)
  have keeps : During .inert (Step.Keeps .inert ⟨0⟩) past later :=
    ⟨⟨trivial, found⟩, ⟨trivial, freed⟩, ⟨trivial, missed⟩, trivial⟩
  exact ⟨known, owned, shows, keeps,
    (text_kept Catalogue.faithful_inert known owned shows keeps).1⟩

end CommandWords
