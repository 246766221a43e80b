/-
This file says when an action on a cell frees a payload: when its representation leaves the cell,
and then this very payload.
-/

import CommandWords.Proofs.Lookup.LookupRun
import CommandWords.Proofs.Session.Surroundings

namespace CommandWords

variable {Data : Type}

namespace State

/-- All representations stay, and no new call frees or assigns anything. -/
structure Quiet (first second : State Data) : Prop where
  size : second.cells.size = first.cells.size
  representation : ∀ cell,
    (second.cells.get cell).representation = (first.cells.get cell).representation
  calls : ∃ made, second.calls = made ++ first.calls ∧
    ∀ call ∈ made, call.hook ≠ .free ∧ call.hook ≠ .assign

theorem Quiet.of_same {first second : State Data} (cells : second.cells = first.cells)
    (calls : second.calls = first.calls) : first.Quiet second :=
  ⟨by rw [cells], fun _ => by rw [cells], [], calls, by simp⟩

instance : IsPreorder (State Data) Quiet where
  refl _ := .of_same rfl rfl
  trans first second third before after := by
    obtain ⟨made, grown, harmless⟩ := before.calls
    obtain ⟨more, grownMore, harmlessToo⟩ := after.calls
    refine ⟨after.size.trans before.size, ?_, more ++ made, ?_, ?_⟩
    · exact fun cell => (after.representation cell).trans (before.representation cell)
    · rw [grownMore, grown, List.append_assoc]
    · intro call member
      rcases List.mem_append.mp member with late | early
      · exact harmlessToo call late
      · exact harmless call early

theorem quiet_setText (state : State Data) (cell : CellRef Data) (text : Option String) :
    state.Quiet (state.setText cell text) :=
  ⟨rfl, fun other => state.representation_setText cell other text, [], rfl, by simp⟩

theorem quiet_addObject (state : State Data) (content : Content Data) :
    state.Quiet (state.addObject content) := .of_same rfl rfl

theorem quiet_updateInterpreter (state : State Data) (interpreter : InterpreterRef Data)
    (update : Interpreter (CellRef Data) → Interpreter (CellRef Data)) :
    state.Quiet (state.updateInterpreter interpreter update) := .of_same rfl rfl

theorem Quiet.reporting (catalogue : Catalogue Data) : Reporting catalogue Quiet where
  noted _ type hook arguments unfreed unassigned :=
    ⟨rfl, fun _ => rfl, [⟨type, hook, arguments⟩], rfl, by simp [unfreed, unassigned]⟩
  object := quiet_addObject
  text state cell _ text _ _ _ := state.quiet_setText cell (some text)
  interpreters := quiet_updateInterpreter
  registries _ _ := .of_same rfl rfl

theorem calls_setObject (state : State Data) (payload : Payload Data) (content : Content Data) :
    (state.setObject payload content).calls = state.calls := by
  cases payload <;> rfl

/-- The representation leaves the cell, and then its payload is freed. -/
def freedFrom (state : State Data) (cell : CellRef Data) (representation : Representation Data) :
    State Data :=
  (state.setRepresentation cell none).noted representation.type .free
    [state.argument representation.payload]

/-- The cell has no representation any more. The one that it had was freed. -/
inductive Detached (cell : CellRef Data) (state : State Data) : State Data → Prop
  | empty (bare : (state.cells.get cell).representation = none) : Detached cell state state
  | freed {representation : Representation Data}
      (held : (state.cells.get cell).representation = some representation) :
      Detached cell state (state.freedFrom cell representation)

end State

/-- The representation that an action was to install. -/
def Turnover.wanted? :
    Except Fault (Option (Representation Data)) → Option (Representation Data)
  | .ok wanted => wanted
  | .error _ => none

/-- How an action on a cell turns over its representation. The ending tells which representation
was to be installed. -/
inductive Turnover (catalogue : Catalogue Data) (cell : CellRef Data) (start : State Data) :
    Except Fault (Option (Representation Data)) → State Data → Prop
  | kept {ending : Except Fault (Option (Representation Data))} {later : State Data}
      (idle : Turnover.wanted? ending = none) (quiet : start.Quiet later) :
      Turnover catalogue cell start ending later
  | assigned {ending : Except Fault (Option (Representation Data))} {middle later : State Data}
      {type : TypeId} {arguments : List (Argument Data)} (quiet : start.Quiet middle)
      (rest : (middle.noted type .assign arguments).Quiet later) :
      Turnover catalogue cell start ending later
  | freed {middle bare later : State Data} (quiet : start.Quiet middle)
      (detached : middle.Detached cell bare) (rest : bare.Quiet later) :
      Turnover catalogue cell start (.ok none) later
  | lost {middle : State Data} {representation : Representation Data} {fault : Fault}
      (quiet : start.Quiet middle)
      (held : (middle.cells.get cell).representation = some representation)
      (failed : (catalogue.describe representation.type).free
        (middle.freedFrom cell representation).view (middle.argument representation.payload) =
          .error fault) :
      Turnover catalogue cell start (.error fault) (middle.freedFrom cell representation)
  | installed {middle bare later : State Data} {representation : Representation Data}
      (quiet : start.Quiet middle) (detached : middle.Detached cell bare)
      (rest : (bare.setRepresentation cell (some representation)).Quiet later) :
      Turnover catalogue cell start (.ok (some representation)) later

namespace Turnover

variable {catalogue : Catalogue Data} {cell : CellRef Data} {start middle later : State Data}

theorem after_quiet {ending : Except Fault (Option (Representation Data))}
    (quiet : start.Quiet middle) (turnover : Turnover catalogue cell middle ending later) :
    Turnover catalogue cell start ending later := by
  cases turnover with
  | kept idle rest => exact .kept idle (trans_of State.Quiet quiet rest)
  | assigned before rest => exact .assigned (trans_of State.Quiet quiet before) rest
  | freed before detached rest => exact .freed (trans_of State.Quiet quiet before) detached rest
  | lost before held failed => exact .lost (trans_of State.Quiet quiet before) held failed
  | installed before detached rest =>
      exact .installed (trans_of State.Quiet quiet before) detached rest

theorem before_quiet {installs : Option (Representation Data)}
    (turnover : Turnover catalogue cell start (.ok installs) middle)
    (quiet : middle.Quiet later) : Turnover catalogue cell start (.ok installs) later := by
  cases turnover with
  | kept idle before => exact .kept idle (trans_of State.Quiet before quiet)
  | assigned before rest => exact .assigned before (trans_of State.Quiet rest quiet)
  | freed before detached rest => exact .freed before detached (trans_of State.Quiet rest quiet)
  | installed before detached rest =>
      exact .installed before detached (trans_of State.Quiet rest quiet)

end Turnover

namespace Action

variable {Value : Type} (catalogue : Catalogue Data) (cell : CellRef Data) (state : State Data)

/-- A cell without a representation stays as it is. Otherwise the free hook decides the ending. -/
theorem run_detach :
    (detach catalogue cell).run state =
      match (state.cells.get cell).representation with
      | none => (.ok (), state)
      | some representation =>
          ((catalogue.describe representation.type).free
            (state.freedFrom cell representation).view (state.argument representation.payload),
            state.freedFrom cell representation) := by
  unfold detach
  rw [run_bind_ok (run_state state)]
  cases held : (state.cells.get cell).representation with
  | none => simp only [held, run_pure]
  | some representation =>
      simp only [held]
      rfl

/-- What follows a detached representation is left out when its free hook fails. -/
theorem turnover_detach (next : Unit → Action Data Value) {installs : Option (Representation Data)}
    (continues : ∀ bare, state.Detached cell bare → ∃ value later,
      (next ()).run bare = (.ok value, later) ∧
        Turnover catalogue cell state (.ok installs) later) :
    Turnover catalogue cell state
      (((detach catalogue cell >>= next).run state).1.map fun _ => installs)
      ((detach catalogue cell >>= next).run state).2 := by
  rw [run_bind, run_detach]
  cases held : (state.cells.get cell).representation with
  | none =>
      obtain ⟨value, later, ended, turnover⟩ := continues state (.empty held)
      dsimp only
      rw [ended]
      exact turnover
  | some representation =>
      dsimp only
      generalize failed : (catalogue.describe representation.type).free _ _ = result
      cases result with
      | ok freed =>
          obtain ⟨value, later, ended, turnover⟩ := continues _ (.freed held)
          dsimp only
          rw [ended]
          exact turnover
      | error fault => exact .lost (refl_of State.Quiet state) held failed

theorem turnover_replace (type : TypeId) (payload : Payload Data) :
    Turnover catalogue cell state
      (((replace catalogue cell type payload).run state).1.map fun _ => some ⟨type, payload⟩)
      ((replace catalogue cell type payload).run state).2 := by
  refine turnover_detach catalogue cell state _ fun bare detached => ⟨(), _, rfl, ?_⟩
  exact .installed (refl_of State.Quiet state) detached (refl_of State.Quiet _)

theorem turnover_install (type : TypeId) (payload : Payload Data) :
    Turnover catalogue cell state
      (((install catalogue cell type payload).run state).1.map fun _ => some ⟨type, payload⟩)
      ((install catalogue cell type payload).run state).2 := by
  unfold install
  rw [run_bind_ok (run_state state)]
  cases accepted : state.payload? catalogue cell type with
  | none => exact turnover_replace catalogue cell state type payload
  | some target =>
      cases able : (catalogue.describe type).assign? with
      | none => exact turnover_replace catalogue cell state type payload
      | some assign =>
          simp only [run_callAssign]
          split
          next content written =>
            let called := state.noted type .assign
              [state.argument target, state.argument payload]
            refine .assigned (refl_of State.Quiet state) (?_ : called.Quiet _)
            exact .of_same (called.cells_setObject target content) (called.calls_setObject ..)
          next fault failed =>
            exact .assigned (refl_of State.Quiet state) (refl_of State.Quiet _)

/-- The text is stored before the representation leaves the cell. -/
theorem turnover_freeRepresentation :
    Turnover catalogue cell state
      (((freeRepresentation catalogue cell).run state).1.map fun _ => none)
      ((freeRepresentation catalogue cell).run state).2 := by
  have run := freeRepresentation_run catalogue cell state
  have reads := relates_text (State.Quiet.reporting catalogue).toConsulting cell
  generalize (freeRepresentation catalogue cell).run state = ended at run ⊢
  obtain ⟨ending, later⟩ := ended
  cases run with
  | bare held => exact .kept rfl (refl_of State.Quiet _)
  | unread held ended => exact .kept rfl (reads.ended ended)
  | @detached _ _ read _ _ held ended gone =>
      have turnover : Turnover catalogue cell read
          (((detach catalogue cell >>= pure).run read).1.map fun _ => none)
          ((detach catalogue cell >>= pure).run read).2 :=
        turnover_detach catalogue cell read pure fun bare detached =>
          ⟨(), bare, rfl, .freed (refl_of State.Quiet read) detached (refl_of State.Quiet bare)⟩
      rw [bind_pure, gone] at turnover
      exact .after_quiet (reads.ended ended) turnover

theorem turnover_dispose :
    Turnover catalogue cell state
      (((dispose catalogue cell).run state).1.map fun _ => none)
      ((dispose catalogue cell).run state).2 := by
  refine turnover_detach catalogue cell state _ fun bare detached => ⟨(), _, rfl, ?_⟩
  exact .freed (refl_of State.Quiet state) detached (bare.quiet_setText cell none)

end Action

/-- The outcome was not kept from before. -/
def Outcome.isFresh {Value : Type} (outcome : Outcome Value) : Bool :=
  outcome.isDone && outcome.effort.cached != some true

/-- Only a fresh outcome installs something. -/
def Outcome.installs? {Value : Type} (representation : Representation Data)
    (outcome : Outcome Value) : Option (Representation Data) :=
  if outcome.isFresh then some representation else none

theorem Outcome.eq_of_installs? {Value : Type} {outcome : Outcome Value}
    {representation wanted : Representation Data}
    (installs : outcome.installs? representation = some wanted) : wanted = representation := by
  unfold installs? at installs
  split at installs
  next => exact (Option.some.inj installs).symm
  next => cases installs

theorem Scan.isFresh_refusal (scan : Scan) (label key : String) (keywords : List String) :
    (scan.refusal label key keywords).isFresh = false := by
  unfold Scan.refusal
  cases scan.misfit <;> rfl

theorem Question.Installs.turnover {catalogue : Catalogue Data} {question : Question Data}
    {state later : State Data} {position : Nat} {ending : Except Fault Unit}
    (installed : question.Installs catalogue state position ending later) :
    Turnover catalogue question.cell state
      (ending.map fun _ => some ⟨.resolution, .object state.objects.next⟩) later := by
  let answer : Content Data := .resolution (question.resolution position)
  have turnover := Action.turnover_install catalogue question.cell (state.addObject answer)
    .resolution (.object state.objects.next)
  rw [installed] at turnover
  exact .after_quiet (state.quiet_addObject answer) turnover

/-- A lookup installs its answer last and records it then. -/
theorem Question.LookupRun.turnover {catalogue : Catalogue Data} {question : Question Data}
    {state later : State Data} {ending : Except Fault (Outcome Number)}
    (asked : LookupRun catalogue question state ending later) :
    Turnover catalogue question.cell state
      (ending.map (Outcome.installs? ⟨.resolution, .object state.objects.next⟩)) later := by
  have consulting := (State.Quiet.reporting catalogue).toConsulting
  have quiet := Action.relates_text consulting question.cell state
  have recorded (present : State Data) (event : Ledger.Event) :
      present.Quiet (present.noteEvent event) := .of_same rfl rfl
  cases asked with
  | hit kept => exact .kept rfl (recorded state _)
  | malformed unkept unformed => exact .kept rfl (refl_of State.Quiet state)
  | unread unkept ended =>
      rw [ended] at quiet
      exact .kept rfl quiet
  | refused reads unresolved =>
      rw [reads.ended] at quiet
      refine .kept ?_ (trans_of State.Quiet quiet (recorded _ _))
      simp [Except.map, Turnover.wanted?, Outcome.installs?, Scan.isFresh_refusal]
  | settled reads resolved installed =>
      have objects := Action.objects_text catalogue question.cell state
      rw [reads.ended] at quiet objects
      rw [← objects]
      exact .after_quiet quiet (.before_quiet installed.turnover (recorded _ _))
  | lost reads installed =>
      rw [reads.ended] at quiet
      exact .after_quiet quiet installed.turnover

/-- The payload that a caller gives, which may be a new object. -/
def State.given (state : State Data) : Made Data → Payload Data
  | .object _ => .object state.objects.next
  | .existing payload => payload

theorem Action.turnover_installMade (catalogue : Catalogue Data) (cell : CellRef Data)
    (state : State Data) (type : TypeId) (made : Made Data) :
    Turnover catalogue cell state
      (((installMade catalogue cell type made).run state).1.map fun _ =>
        some ⟨type, state.given made⟩)
      ((installMade catalogue cell type made).run state).2 := by
  unfold installMade
  cases made with
  | object content =>
      rw [run_bind_ok (run_make_object content state)]
      exact .after_quiet (state.quiet_addObject content)
        (turnover_install catalogue cell _ type _)
  | existing payload => exact turnover_install catalogue cell state type payload

/-- A conversion installs the payload that the type makes. A cell that has the type already is left
alone. -/
theorem Action.turnover_convert (catalogue : Catalogue Data) (cell : CellRef Data)
    (state : State Data) (registry : Ref Registry) (name : String) :
    ∃ representation, Turnover catalogue cell state
      (((convert catalogue registry cell name).run state).1.map
        (Outcome.installs? representation))
      ((convert catalogue registry cell name).run state).2 := by
  have run := convert_run catalogue registry cell name state
  have reads (type : TypeId) :=
    relates_callConvert (State.Quiet.reporting catalogue).toConsulting type cell
  have unmade : Representation Data := ⟨.resolution, .object state.objects.next⟩
  generalize (convert catalogue registry cell name).run state = ended at run ⊢
  obtain ⟨ending, later⟩ := ended
  cases run with
  | unknown unknown => exact ⟨unmade, .kept rfl (refl_of State.Quiet _)⟩
  | kept known compatible => exact ⟨unmade, .kept rfl (refl_of State.Quiet _)⟩
  | unread known other ended => exact ⟨unmade, .kept rfl ((reads _).ended ended)⟩
  | refused known other ended => exact ⟨unmade, .kept rfl ((reads _).ended ended)⟩
  | @installed type made _ read _ ending known other ended installed =>
      have turnover := turnover_installMade catalogue cell read type made
      rw [installed] at turnover
      refine ⟨⟨type, read.given made⟩, ?_⟩
      cases ending with
      | ok value => exact .after_quiet ((reads type).ended ended) turnover
      | error fault => exact .after_quiet ((reads type).ended ended) turnover

end CommandWords
