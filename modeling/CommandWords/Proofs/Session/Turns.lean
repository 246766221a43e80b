/-
This file reads off the calls of an action what happened to the representation of a cell. Installs
and frees take turns.
-/

import CommandWords.Proofs.Session.Turnover

namespace CommandWords

variable {Data : Type}

/-- The payload of a representation is freed by the type that it was installed with. -/
structure HookCall.Frees (call : HookCall Data) (representation : Representation Data) : Prop where
  type : call.type = representation.type
  hook : call.hook = .free
  payload : call.arguments.map Argument.payload = [representation.payload]

/-- What happens to the representation of one cell. -/
inductive Turn (Data : Type) where
  | installed (representation : Representation Data)
  | freed (call : HookCall Data)

namespace Turn

def isInstalled : Turn Data → Bool
  | installed _ => true
  | freed _ => false

def isFreed : Turn Data → Bool
  | installed _ => false
  | freed _ => true

end Turn

/-- Installs and frees alternate, and each call frees what the install before it installed. The
latest turn comes first. -/
inductive Turns : Option (Representation Data) → List (Turn Data) →
    Option (Representation Data) → Prop
  | start {held : Option (Representation Data)} : Turns held [] held
  | installed {held : Option (Representation Data)} {turns : List (Turn Data)}
      (before : Turns held turns none) (representation : Representation Data) :
      Turns held (.installed representation :: turns) (some representation)
  | freed {held : Option (Representation Data)} {turns : List (Turn Data)}
      {representation : Representation Data} {call : HookCall Data}
      (before : Turns held turns (some representation)) (frees : call.Frees representation) :
      Turns held (.freed call :: turns) none

namespace Turns

variable {first second third : Option (Representation Data)} {earlier later : List (Turn Data)}

theorem append (before : Turns first earlier second) (after : Turns second later third) :
    Turns first (later ++ earlier) third := by
  induction after with
  | start => exact before
  | installed _ representation inductionHypothesis =>
      exact .installed inductionHypothesis representation
  | freed _ frees inductionHypothesis => exact .freed inductionHypothesis frees

/-- Frees in a row are one free at most. -/
theorem of_freed {frees : List (HookCall Data)}
    (turns : Turns first (frees.map .freed) second) :
    frees = [] ∧ second = first ∨
      ∃ call representation, frees = [call] ∧ first = some representation ∧
        call.Frees representation ∧ second = none := by
  cases frees with
  | nil =>
      cases turns
      exact .inl ⟨rfl, rfl⟩
  | cons call rest =>
      cases turns with
      | @freed _ representation _ before frees =>
          refine .inr ⟨call, representation, ?_⟩
          cases rest with
          | nil =>
              cases before
              exact ⟨rfl, rfl, frees, rfl⟩
          | cons other rest => cases before

/-- The one free comes before the install. -/
theorem of_installed {installed : Option (Representation Data)} {frees : List (HookCall Data)}
    (turns : Turns first (installed.toList.map .installed ++ frees.map .freed) second) :
    frees = [] ∨
      ∃ call representation, frees = [call] ∧ first = some representation ∧
        call.Frees representation ∧ second = installed := by
  cases installed with
  | none =>
      rcases of_freed turns with ⟨unfreed, _⟩ | freed
      · exact .inl unfreed
      · exact .inr freed
  | some filled =>
      cases turns with
      | installed before =>
          rcases of_freed before with ⟨unfreed, _⟩ | ⟨call, representation, one, held, frees, _⟩
          · exact .inl unfreed
          · exact .inr ⟨call, representation, one, held, frees, rfl⟩

/-- What was installed last is held. -/
theorem held_of_installed {representation : Representation Data} {turns : List (Turn Data)}
    (filled : Turns first (.installed representation :: turns) second) :
    second = some representation := by
  cases filled
  rfl

/-- What was installed and not freed is held. -/
theorem balance (turns : Turns first earlier second) :
    earlier.countP Turn.isFreed + second.isSome.toNat =
      earlier.countP Turn.isInstalled + first.isSome.toNat := by
  induction turns with
  | start => rfl
  | installed before representation inductionHypothesis =>
      rw [List.countP_cons, List.countP_cons]
      simp [Turn.isFreed, Turn.isInstalled] at inductionHypothesis ⊢
      omega
  | freed before frees inductionHypothesis =>
      rw [List.countP_cons, List.countP_cons]
      simp [Turn.isFreed, Turn.isInstalled] at inductionHypothesis ⊢
      omega

end Turns

namespace HookCall

def isFree (call : HookCall Data) : Bool := call.hook = .free

def isAssign (call : HookCall Data) : Bool := call.hook = .assign

end HookCall

/-- What an action did to one cell, by the calls that it made and the payload that it installed. -/
structure Turned (cell : CellRef Data) (start : State Data) (made : List (HookCall Data))
    (installed : Option (Representation Data)) (later : State Data) : Prop where
  calls : later.calls = made ++ start.calls
  size : later.cells.size = start.cells.size
  others : ∀ other, other ≠ cell →
    (later.cells.get other).representation = (start.cells.get other).representation
  turns : Turns (start.cells.get cell).representation
    (installed.toList.map .installed ++ (made.filter HookCall.isFree).map .freed)
    (later.cells.get cell).representation

/-- The calls free and assign nothing. -/
structure Harmless (made : List (HookCall Data)) : Prop where
  unassigned : made.any HookCall.isAssign = false
  unfreed : made.filter HookCall.isFree = []

theorem Harmless.of_hooks {made : List (HookCall Data)}
    (hooks : ∀ call ∈ made, call.hook ≠ .free ∧ call.hook ≠ .assign) : Harmless made := by
  constructor
  · rw [List.any_eq_false]
    intro call member
    simp [HookCall.isAssign, (hooks call member).2]
  · rw [List.filter_eq_nil_iff]
    intro call member
    simp [HookCall.isFree, (hooks call member).1]

namespace State

theorem Quiet.turned {first second : State Data} (quiet : first.Quiet second)
    (cell : CellRef Data) : ∃ made, Harmless made ∧ Turned cell first made none second := by
  obtain ⟨made, grown, hooks⟩ := quiet.calls
  have harmless := Harmless.of_hooks hooks
  refine ⟨made, harmless, grown, quiet.size, fun other _ => quiet.representation other, ?_⟩
  rw [harmless.unfreed, quiet.representation]
  exact .start

/-- The call of the free hook. -/
def freeCall (state : State Data) (representation : Representation Data) : HookCall Data :=
  ⟨representation.type, .free, [state.argument representation.payload]⟩

variable {cell : CellRef Data} {state bare : State Data} {representation : Representation Data}

@[simp] theorem representation_freedFrom :
    ((state.freedFrom cell representation).cells.get cell).representation = none := by
  simp [freedFrom, noted]

theorem turned_freedFrom
    (held : (state.cells.get cell).representation = some representation) :
    Turned cell state [state.freeCall representation] none
      (state.freedFrom cell representation) := by
  refine ⟨rfl, rfl, ?_, ?_⟩
  · intro other different
    exact congrArg Cell.representation (state.get_setRepresentation_other cell different none)
  · rw [held, representation_freedFrom]
    exact .freed (.start) ⟨rfl, rfl, rfl⟩

theorem Detached.turned (detached : state.Detached cell bare) :
    ∃ made, made.any HookCall.isAssign = false ∧ Turned cell state made none bare := by
  cases detached with
  | empty bare => exact ⟨[], rfl, rfl, rfl, fun _ _ => rfl, .start⟩
  | freed held => exact ⟨_, rfl, turned_freedFrom held⟩

theorem Detached.gone (detached : state.Detached cell bare) :
    (bare.cells.get cell).representation = none := by
  cases detached with
  | empty bare => exact bare
  | freed held => exact representation_freedFrom

theorem turned_setRepresentation (bare : (state.cells.get cell).representation = none) :
    Turned cell state [] (some representation)
      (state.setRepresentation cell (some representation)) := by
  refine ⟨rfl, rfl, ?_, ?_⟩
  · intro other different
    exact congrArg Cell.representation (state.get_setRepresentation_other cell different _)
  · rw [bare, get_setRepresentation]
    exact .installed (.start) representation

end State

namespace Turned

variable {cell : CellRef Data} {start middle later : State Data}
  {made more : List (HookCall Data)} {installed : Option (Representation Data)}

theorem trans (before : Turned cell start made none middle)
    (after : Turned cell middle more installed later) :
    Turned cell start (more ++ made) installed later := by
  refine ⟨?_, after.size.trans before.size, ?_, ?_⟩
  · rw [after.calls, before.calls, List.append_assoc]
  · intro other different
    rw [after.others other different, before.others other different]
  · have joined := before.turns.append after.turns
    simpa using joined

theorem before_quiet (before : Turned cell start made installed middle)
    (quiet : middle.Quiet later) :
    ∃ more, Harmless more ∧ Turned cell start (more ++ made) installed later := by
  obtain ⟨more, harmless, after⟩ := quiet.turned cell
  refine ⟨more, harmless, ?_, after.size.trans before.size, ?_, ?_⟩
  · rw [after.calls, before.calls, List.append_assoc]
  · intro other different
    rw [after.others other different, before.others other different]
  · rw [quiet.representation, List.filter_append, harmless.unfreed]
    exact before.turns

end Turned

/-- The latest call is this one, and its free hook failed. -/
structure HookCall.FailsLast (catalogue : Catalogue Data) (call : HookCall Data)
    (state : State Data) (fault : Fault) : Prop where
  intro ::
  latest : state.calls.head? = some call
  exists_argument : ∃ argument, call.arguments = [argument] ∧
    (catalogue.describe call.type).free state.view argument = .error fault

namespace Turnover

/-- An action that assigns a payload installs none. -/
def installed? (ending : Except Fault (Option (Representation Data))) (assigns : Bool) :
    Option (Representation Data) :=
  if assigns then none else wanted? ending

theorem installed?_idle {ending : Except Fault (Option (Representation Data))}
    (idle : wanted? ending = none) (assigns : Bool) : installed? ending assigns = none := by
  rw [installed?, idle, ite_self]

theorem wanted?_of_installed? {ending : Except Fault (Option (Representation Data))}
    {assigns : Bool} {representation : Representation Data}
    (installed : installed? ending assigns = some representation) :
    wanted? ending = some representation := by
  cases assigns with
  | true => cases installed
  | false => exact installed

/-- The calls of an action that works on one cell, with what they did to it. -/
structure Trace (catalogue : Catalogue Data) (cell : CellRef Data) (start : State Data)
    (ending : Except Fault (Option (Representation Data))) (made : List (HookCall Data))
    (later : State Data) : Prop where
  turned : Turned cell start made (installed? ending (made.any HookCall.isAssign)) later
  assigned : made.any HookCall.isAssign = true → made.filter HookCall.isFree = []
  failed : ∀ fault, ending = .error fault → ∀ call ∈ made.filter HookCall.isFree,
    call.FailsLast catalogue later fault

variable {catalogue : Catalogue Data} {cell : CellRef Data} {start later : State Data}
  {ending : Except Fault (Option (Representation Data))}

theorem exists_trace (turnover : Turnover catalogue cell start ending later) :
    ∃ made, Trace catalogue cell start ending made later := by
  cases turnover with
  | kept idle quiet =>
      obtain ⟨made, harmless, turned⟩ := quiet.turned cell
      refine ⟨made, ?_, fun _ => harmless.unfreed, ?_⟩
      · rw [installed?_idle idle]
        exact turned
      · rw [harmless.unfreed]
        exact fun _ _ _ member => absurd member List.not_mem_nil
  | @assigned _ middle _ type arguments quiet rest =>
      let call : HookCall Data := ⟨type, .assign, arguments⟩
      have assigning : Turned cell middle [call] none (middle.noted type .assign arguments) :=
        ⟨rfl, rfl, fun _ _ => rfl, .start⟩
      obtain ⟨made, harmless, before⟩ := quiet.turned cell
      obtain ⟨more, harmlessToo, turned⟩ := (before.trans assigning).before_quiet rest
      have unfreed : (more ++ ([call] ++ made)).filter HookCall.isFree = [] := by
        rw [List.filter_append, List.filter_append, harmless.unfreed, harmlessToo.unfreed]
        rfl
      refine ⟨more ++ ([call] ++ made), ?_, fun _ => unfreed, ?_⟩
      · have assigns : (more ++ ([call] ++ made)).any HookCall.isAssign = true := by
          simp [call, HookCall.isAssign]
        rw [assigns]
        exact turned
      · rw [unfreed]
        exact fun _ _ _ member => absurd member List.not_mem_nil
  | freed quiet detached rest =>
      obtain ⟨made, harmless, before⟩ := quiet.turned cell
      obtain ⟨freed, unassigned, gone⟩ := detached.turned
      obtain ⟨more, harmlessToo, turned⟩ := (before.trans gone).before_quiet rest
      have assigns : (more ++ (freed ++ made)).any HookCall.isAssign = false := by
        simp [harmless.unassigned, unassigned, harmlessToo.unassigned]
      refine ⟨more ++ (freed ++ made), ?_, ?_, nofun⟩
      · rw [assigns]
        exact turned
      · rw [assigns]
        exact nofun
  | @lost middle representation fault quiet held failed =>
      obtain ⟨made, harmless, before⟩ := quiet.turned cell
      have assigns : ([middle.freeCall representation] ++ made).any HookCall.isAssign = false := by
        simp [harmless.unassigned, State.freeCall, HookCall.isAssign]
      refine ⟨[middle.freeCall representation] ++ made, ?_, ?_, ?_⟩
      · rw [assigns]
        exact before.trans (State.turned_freedFrom held)
      · rw [assigns]
        exact nofun
      · -- Nothing runs after the free hook has failed, so its call is the latest one.
        rintro _ ⟨⟩ call member
        rw [List.filter_append, harmless.unfreed] at member
        obtain rfl : call = middle.freeCall representation := by
          simpa [HookCall.isFree, State.freeCall] using member
        exact ⟨rfl, _, rfl, failed⟩
  | @installed middle bare _ representation quiet detached rest =>
      obtain ⟨made, harmless, before⟩ := quiet.turned cell
      obtain ⟨freed, unassigned, gone⟩ := detached.turned
      have filled : Turned cell bare [] (some representation) _ :=
        State.turned_setRepresentation detached.gone
      obtain ⟨more, harmlessToo, turned⟩ := ((before.trans gone).trans filled).before_quiet rest
      have assigns : (more ++ ([] ++ (freed ++ made))).any HookCall.isAssign = false := by
        simp [harmless.unassigned, unassigned, harmlessToo.unassigned]
      refine ⟨more ++ ([] ++ (freed ++ made)), ?_, ?_, nofun⟩
      · rw [assigns]
        exact turned
      · rw [assigns]
        exact nofun

end Turnover

end CommandWords
