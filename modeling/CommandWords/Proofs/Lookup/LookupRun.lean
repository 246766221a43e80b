/-
This file says how a lookup ends and what it leaves behind.
-/

import CommandWords.Proofs.Session.Agreement
import CommandWords.Proofs.Session.Runs

namespace CommandWords

variable {Data : Type} {catalogue : Catalogue Data}

namespace State

def noteEvent (state : State Data) (event : Ledger.Event) : State Data :=
  { state with ledger := state.ledger.record event }

theorem noteEvent_same (state : State Data) (event : Ledger.Event) :
    state.SameMemory (state.noteEvent event) :=
  ⟨rfl, rfl, rfl⟩

end State

namespace Action

/-- A lookup through an interpreter settles the question that it asks. -/
theorem run_resolve (interpreter : InterpreterRef Data) (cell : CellRef Data)
    (table : Ref Table) (stride : Number) (label : String) (exact : Option Bool)
    (state : State Data) :
    (resolve catalogue interpreter cell table stride label exact).run state =
      let settings := (state.interpreters.get interpreter).configuration.lookup
      let question : Question Data :=
        ⟨cell, table, stride, label, exact.getD settings.exactByDefault⟩
      (question.ask catalogue >>= settle interpreter).run state := rfl

/-- The ledger has no part in the text of a cell. -/
theorem text_noteEvent (cell : CellRef Data) (state : State Data) (event : Ledger.Event) :
    ((text catalogue cell).run (state.noteEvent event)).1 =
      ((text catalogue cell).run state).1 := by
  have overlooks : (text catalogue cell).Overlooks := fun _ => agrees_text catalogue cell
  have noted : state.noteEvent event =
      state.beside state.interpreters (state.ledger.record event) := rfl
  rw [noted, overlooks.run_beside]

end Action

namespace Question

variable (catalogue)

/-- The cell keeps no answer, so its text is read as the key for the keywords of the table. -/
structure Reads (question : Question Data) (state : State Data) (keywords : List String)
    (key : String) (later : State Data) : Prop where
  unkept : state.keptAnswer? catalogue question.cell question.table question.stride = none
  formed : ∃ effort,
    (state.tables.get question.table).keywords question.stride = .done keywords effort
  ended : (Action.text catalogue question.cell).run state = (.ok key, later)

variable {catalogue} in
theorem Reads.prepared {question : Question Data} {state later : State Data}
    {keywords : List String} {key : String}
    (reads : Reads catalogue question state keywords key later) :
    state.Prepared catalogue later :=
  (Action.prepares_text catalogue question.cell).ended reads.ended

/-- The resolution that a position stands for. -/
def resolution (question : Question Data) (position : Nat) : Resolution :=
  ⟨question.table, question.stride, .ofNat position⟩

/-- The payload of an answer is a new object behind the ones that exist. -/
def Installs (question : Question Data) (state : State Data) (position : Nat)
    (ending : Except Fault Unit) (later : State Data) : Prop :=
  (Action.install catalogue question.cell .resolution (.object state.objects.next)).run
    (state.addObject (.resolution (question.resolution position))) = (ending, later)

theorem Installs.run {question : Question Data} {state later : State Data} {position : Nat}
    {ending : Except Fault Unit}
    (installed : question.Installs catalogue state position ending later) :
    Action.InstallRun catalogue question.cell .resolution (.object state.objects.next)
      (state.addObject (.resolution (question.resolution position))) ending later := by
  have run := Action.install_run catalogue question.cell .resolution (.object state.objects.next)
    (state.addObject (.resolution (question.resolution position)))
  rwa [installed] at run

/-- An answer is assigned to the resolution that the cell holds, or else its own object is
installed. -/
theorem Installs.written {question : Question Data} {state later : State Data} {position : Nat}
    (installed : question.Installs catalogue state position (.ok ()) later) :
    let content := Content.resolution (question.resolution position)
    let answered := state.addObject content
    (∃ target, answered.payload? catalogue question.cell .resolution = some target ∧
      (answered.setObject target content).SameMemory later) ∨
    answered.payload? catalogue question.cell .resolution = none ∧
      (answered.setRepresentation question.cell
        (some ⟨.resolution, .object state.objects.next⟩)).SameMemory later := by
  cases installed.run with
  | assigned accepted written same =>
      obtain ⟨assign, calls, able, written⟩ := written
      cases able
      have taken : _ = _ := Except.ok.inj written
      rw [State.argument, State.content, State.get_addObject_next] at taken
      subst taken
      exact .inl ⟨_, accepted, same⟩
  | replaced separate same =>
      rcases separate with refused | unable
      · exact .inr ⟨refused, same⟩
      · cases unable

/-- The events of a scan tell what was asked for and what was found. -/
inductive LookupRun (question : Question Data) (state : State Data) :
    Except Fault (Outcome Number) → State Data → Prop
  | hit {index : Number}
      (kept : state.keptAnswer? catalogue question.cell question.table question.stride =
        some index) :
      LookupRun question state (.ok (.done index ⟨some 0, some true⟩))
        (state.noteEvent (.hit question.label index))
  | malformed {failure : Failure Diagnostic} {effort : Effort}
      (unkept : state.keptAnswer? catalogue question.cell question.table question.stride = none)
      (unformed :
        (state.tables.get question.table).keywords question.stride = .fail failure effort) :
      LookupRun question state (.ok (.fail failure effort)) state
  | unread {fault : Fault} {later : State Data}
      (unkept : state.keptAnswer? catalogue question.cell question.table question.stride = none)
      (ended : (Action.text catalogue question.cell).run state = (.error fault, later)) :
      LookupRun question state (.error fault) later
  | refused {keywords : List String} {key : String} {later : State Data}
      (reads : Reads catalogue question state keywords key later)
      (unresolved : (Scan.run key keywords).resolved? question.exactOnly = none) :
      LookupRun question state
        (.ok ((Scan.run key keywords).refusal question.label key keywords))
        (later.noteEvent (.fail question.label key (Scan.run key keywords).misfit
          (.ofNat (Scan.run key keywords).comparisons)))
  | settled {keywords : List String} {key : String} {read later : State Data} {position : Nat}
      (reads : Reads catalogue question state keywords key read)
      (resolved : (Scan.run key keywords).resolved? question.exactOnly = some position)
      (installed : question.Installs catalogue read position (.ok ()) later) :
      LookupRun question state (.ok (.done (.ofNat position) (Scan.run key keywords).effort))
        (later.noteEvent (.scan question.label key (.ofNat position)
          (.ofNat (Scan.run key keywords).comparisons)))
  | lost {keywords : List String} {key : String} {read later : State Data} {position : Nat}
      {fault : Fault} (reads : Reads catalogue question state keywords key read)
      (installed : question.Installs catalogue read position (.error fault) later) :
      LookupRun question state (.error fault) later

/-- A lookup that reads its key ends as the scan of the keywords says. -/
theorem settleScan_run {question : Question Data} {state read : State Data}
    {keywords : List String} {key : String}
    (reads : Reads catalogue question state keywords key read) :
    LookupRun catalogue question state
      ((Action.settleScan catalogue question.cell question.table question.stride question.label
        key keywords question.exactOnly).run read).1
      ((Action.settleScan catalogue question.cell question.table question.stride question.label
        key keywords question.exactOnly).run read).2 := by
  unfold Action.settleScan
  dsimp only
  split
  next unresolved => exact .refused reads unresolved
  next position resolved =>
    rw [Action.run_bind_ok (Action.run_make_object _ read), Action.run_bind]
    cases installed : (Action.install catalogue question.cell .resolution _).run _ with
    | mk ending later =>
        cases ending with
        | ok value => exact .settled reads resolved installed
        | error fault => exact .lost reads installed

theorem ask_run (question : Question Data) (state : State Data) :
    LookupRun catalogue question state ((question.ask catalogue).run state).1
      ((question.ask catalogue).run state).2 := by
  unfold ask Action.lookup
  rw [Action.run_bind_ok (Action.run_state state)]
  cases kept : state.keptAnswer? catalogue question.cell question.table question.stride with
  | some index => exact .hit kept
  | none =>
      cases formed : (state.tables.get question.table).keywords question.stride with
      | fail failure effort =>
          simp only [Action.run_pure]
          exact .malformed kept formed
      | done keywords effort =>
          simp only [Action.run_bind]
          cases ended : (Action.text catalogue question.cell).run state with
          | mk ending later =>
              cases ending with
              | error fault => exact .unread kept ended
              | ok key => exact settleScan_run catalogue ⟨kept, ⟨effort, formed⟩, ended⟩

end Question

end CommandWords
