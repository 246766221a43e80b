/-
This file shows that every installed payload is freed exactly once, when its representation leaves
the cell.
-/

import CommandWords.Proofs.Session.Turning

namespace CommandWords

variable {Data : Type}

/-- The number of cells that hold a representation. -/
def State.holding (state : State Data) : Nat :=
  (List.range state.cells.size).countP fun number =>
    (state.cells.get ⟨number⟩).representation.isSome

theorem State.Quiet.holding {first second : State Data} (quiet : first.Quiet second) :
    second.holding = first.holding := by
  rw [State.holding, quiet.size]
  simp only [quiet.representation]
  rfl

theorem State.holding_addCell (state : State Data) (cell : Cell Data) :
    (state.addCell cell).holding = state.holding + cell.representation.isSome.toNat := by
  have size : (state.addCell cell).cells.size = state.cells.size + 1 := rfl
  have newest : (state.addCell cell).cells.get ⟨state.cells.size⟩ = cell :=
    state.get_addCell_next cell
  have older : (List.range state.cells.size).countP (fun number =>
      ((state.addCell cell).cells.get ⟨number⟩).representation.isSome) = state.holding := by
    apply List.countP_congr
    intro number member
    have below := List.mem_range.mp member
    have different : (⟨number⟩ : CellRef Data) ≠ state.cells.next := by
      intro same
      have equal : number = state.cells.size := congrArg Ref.number same
      omega
    rw [state.get_addCell_other different]
  rw [holding, size, List.range_succ, List.countP_append, older, List.countP_singleton, newest]
  cases cell.representation <;> rfl

/-- A reference that was not given out has no representation. -/
def State.Unclaimed (state : State Data) : Prop :=
  ∀ cell, state.cells.has cell = false → (state.cells.get cell).representation = none

/-- Two tests that differ on one number count alike on the others. -/
theorem countP_range_of_others {first second : Nat → Bool} {size number : Nat}
    (below : number < size) (others : ∀ other, other ≠ number → second other = first other) :
    (List.range size).countP second + (first number).toNat =
      (List.range size).countP first + (second number).toNat := by
  induction size with
  | zero => exact absurd below (Nat.not_lt_zero _)
  | succ size inductionHypothesis =>
      rw [List.range_succ, List.countP_append, List.countP_append, List.countP_singleton,
        List.countP_singleton]
      by_cases last : number = size
      · have lower : (List.range size).countP second = (List.range size).countP first := by
          apply List.countP_congr
          intro other member
          rw [others other (by have := List.mem_range.mp member; omega)]
        rw [lower, last]
        cases first size <;> cases second size <;> simp
      · rw [others size (Ne.symm last)]
        have smaller := inductionHypothesis (by omega)
        omega

namespace Turned

variable {cell : CellRef Data} {start later : State Data} {made : List (HookCall Data)}
  {installed : Option (Representation Data)}

theorem holding (turned : Turned cell start made installed later)
    (known : start.cells.has cell = true) :
    later.holding + (start.cells.get cell).representation.isSome.toNat =
      start.holding + (later.cells.get cell).representation.isSome.toNat := by
  rw [State.holding, State.holding, turned.size]
  let held (state : State Data) (number : Nat) : Bool :=
    (state.cells.get ⟨number⟩).representation.isSome
  have others (other : Nat) (different : other ≠ cell.number) :
      held later other = held start other := by
    simp only [held]
    rw [turned.others ⟨other⟩ fun same => different (congrArg Ref.number same)]
  exact countP_range_of_others (of_decide_eq_true known) others

/-- What was installed and not freed is held. -/
theorem balance (turned : Turned cell start made installed later)
    (known : start.cells.has cell = true) :
    (made.filter HookCall.isFree).length + later.holding =
      start.holding + installed.toList.length := by
  have held := turned.holding known
  have turns := turned.turns.balance
  have freed (installs : List (Representation Data)) (frees : List (HookCall Data)) :
      (installs.map Turn.installed ++ frees.map Turn.freed).countP Turn.isFreed =
        frees.length := by
    simp [List.countP_map, Function.comp_def, Turn.isFreed]
  have filled (installs : List (Representation Data)) (frees : List (HookCall Data)) :
      (installs.map Turn.installed ++ frees.map Turn.freed).countP Turn.isInstalled =
        installs.length := by
    simp [List.countP_map, Function.comp_def, Turn.isInstalled]
  rw [freed, filled] at turns
  omega

end Turned

namespace Step

variable {catalogue : Catalogue Data} {step : Step Data} {made : List (HookCall Data)}

theorem calls_eq (grown : (step.after catalogue).calls = made ++ step.before.calls) :
    step.calls catalogue = made := by
  simp [calls, grown]

theorem freed_eq (grown : (step.after catalogue).calls = made ++ step.before.calls) :
    step.freed catalogue = made.filter HookCall.isFree := by
  rw [freed, calls_eq grown]

theorem assigns_eq (grown : (step.after catalogue).calls = made ++ step.before.calls) :
    step.assigns catalogue = made.any HookCall.isAssign := by
  rw [assigns, calls_eq grown]

/-- The cell that a turnover works on is the target if it installs anything. -/
theorem target?_eq {cell : CellRef Data} {ending : Except Fault (Option (Representation Data))}
    (receives : step.receiver? catalogue = (Turnover.wanted? ending).map fun _ => cell) :
    step.target? catalogue =
      (Turnover.installed? ending (step.assigns catalogue)).map fun _ => cell := by
  rw [target?, receives, Turnover.installed?]
  split <;> rfl

variable (catalogue step) in
/-- What a step freed and what it installed account for the representations that are held. -/
structure Balanced : Prop where
  calls : (step.after catalogue).calls = step.calls catalogue ++ step.before.calls
  unclaimed : (step.after catalogue).Unclaimed
  turns : ∀ cell, Turns (step.before.cells.get cell).representation (step.turns catalogue cell)
    ((step.after catalogue).cells.get cell).representation
  balance : (step.freed catalogue).length + (step.after catalogue).holding =
    step.before.holding + (step.target? catalogue).toList.length

/-- Nothing happens to a cell that is neither the target nor worked on. -/
theorem turns_other {cell : CellRef Data} (untargeted : step.target? catalogue ≠ some cell)
    (unaddressed : step.operation.cell? ≠ some cell) : step.turns catalogue cell = [] := by
  simp [turns, untargeted, unaddressed]

theorem Balanced.of_quiet (unclaimed : step.before.Unclaimed)
    (unaddressed : step.operation.cell? = none) (idle : step.receiver? catalogue = none)
    (quiet : step.before.Quiet (step.after catalogue)) : step.Balanced catalogue := by
  obtain ⟨made, grown, hooks⟩ := quiet.calls
  have harmless := Harmless.of_hooks hooks
  have untargeted : step.target? catalogue = none := by
    rw [target?, idle, ite_self]
  constructor
  · rw [calls_eq grown, grown]
  · intro cell unknown
    rw [quiet.representation]
    rw [Store.has, quiet.size] at unknown
    exact unclaimed cell unknown
  · intro cell
    rw [turns_other (by simp [untargeted]) (by simp [unaddressed]), quiet.representation]
    exact .start
  · rw [freed_eq grown, harmless.unfreed, untargeted, quiet.holding]
    exact Nat.zero_add _

theorem Balanced.of_turnover {cell : CellRef Data}
    {ending : Except Fault (Option (Representation Data))} (unclaimed : step.before.Unclaimed)
    (known : step.before.cells.has cell = true) (addressed : step.operation.cell? = some cell)
    (turnover : Turnover catalogue cell step.before ending (step.after catalogue))
    (receives : step.receiver? catalogue = (Turnover.wanted? ending).map fun _ => cell) :
    step.Balanced catalogue := by
  obtain ⟨made, turned, assigned, failed⟩ := turnover.exists_trace
  have target := target?_eq receives
  rw [assigns_eq turned.calls] at target
  have turning := turned.turns
  have balance := turned.balance known
  generalize Turnover.installed? ending _ = installed at target turning balance
  constructor
  · rw [calls_eq turned.calls, turned.calls]
  · intro other unknown
    rw [Store.has, turned.size] at unknown
    have different : other ≠ cell := by
      rintro rfl
      rw [Store.has, unknown] at known
      cases known
    rw [turned.others other different]
    exact unclaimed other unknown
  · intro other
    by_cases same : other = cell
    · -- Only the cell that the operation works on takes turns.
      subst same
      cases installed with
      | none => simpa [Step.turns, target, addressed, freed_eq turned.calls] using turning
      | some representation =>
          have held := turning.held_of_installed
          simpa [Step.turns, target, addressed, freed_eq turned.calls, held] using turning
    · have untargeted : step.target? catalogue ≠ some other := by
        rw [target]
        cases installed with
        | none =>
            intro equal
            cases equal
        | some representation => exact fun equal => same (Option.some.inj equal).symm
      have unaddressed : step.operation.cell? ≠ some other := by
        rw [addressed]
        exact fun equal => same (Option.some.inj equal).symm
      rw [turns_other untargeted unaddressed, turned.others other same]
      exact .start
  · rw [freed_eq turned.calls, balance, target]
    cases installed <;> rfl

theorem Balanced.of_born {middle : State Data} {text : Option String}
    {representation : Option (Representation Data)} (unclaimed : step.before.Unclaimed)
    (unaddressed : step.operation.cell? = none) (quiet : step.before.Quiet middle)
    (made : step.after catalogue = middle.addCell ⟨text, representation⟩)
    (receives : step.receiver? catalogue = representation.map fun _ => middle.cells.next) :
    step.Balanced catalogue := by
  obtain ⟨calls, grown, hooks⟩ := quiet.calls
  have harmless := Harmless.of_hooks hooks
  have grown : (step.after catalogue).calls = calls ++ step.before.calls := by
    rw [made, ← grown]
    rfl
  have filled : ((step.after catalogue).cells.get middle.cells.next).representation =
      representation := by
    rw [made, State.get_addCell_next]
  have others {cell : CellRef Data} (different : cell ≠ middle.cells.next) :
      ((step.after catalogue).cells.get cell).representation =
        (step.before.cells.get cell).representation := by
    rw [made, middle.get_addCell_other different, quiet.representation]
  -- The turns of the new cell start before it was made, with a reference nobody had.
  have bare : (step.before.cells.get middle.cells.next).representation = none := by
    apply unclaimed
    simp [Store.has, Store.next, quiet.size]
  have target : step.target? catalogue = representation.map fun _ => middle.cells.next := by
    rw [target?, assigns_eq grown, harmless.unassigned, receives]
    rfl
  constructor
  · rw [calls_eq grown, grown]
  · intro cell unknown
    have different : cell ≠ middle.cells.next := by
      rintro rfl
      rw [made] at unknown
      simp [Store.has, Store.next, State.addCell] at unknown
    rw [others different]
    apply unclaimed
    rw [made] at unknown
    simp only [Store.has, State.addCell, Store.size_add, decide_eq_false_iff_not, quiet.size]
      at unknown ⊢
    omega
  · intro cell
    by_cases same : cell = middle.cells.next
    · subst same
      rw [bare]
      cases representation with
      | none => simpa [Step.turns, target, unaddressed, filled] using Turns.start
      | some representation =>
          simpa [Step.turns, target, unaddressed, filled] using
            Turns.installed Turns.start representation
    · have untargeted : step.target? catalogue ≠ some cell := by
        rw [target]
        cases representation with
        | none =>
            intro equal
            cases equal
        | some representation => exact fun equal => same (Option.some.inj equal).symm
      rw [turns_other untargeted (by simp [unaddressed]), others same]
      exact .start
  · rw [freed_eq grown, harmless.unfreed, target, made, State.holding_addCell, quiet.holding]
    cases representation <;> simp

/-- The operation works on a cell that was made before. -/
def Addressed (step : Step Data) : Prop :=
  ∀ cell ∈ step.operation.cell?, step.before.cells.has cell = true

instance : DecidablePred (Addressed : Step Data → Prop) := fun step =>
  inferInstanceAs (Decidable (∀ cell ∈ step.operation.cell?, step.before.cells.has cell = true))

theorem balanced (unclaimed : step.before.Unclaimed) (addressed : step.Addressed) :
    step.Balanced catalogue := by
  cases step.turning catalogue with
  | quiet unaddressed idle quiet => exact .of_quiet unclaimed unaddressed idle quiet
  | worked works turnover receives given failed =>
      exact .of_turnover unclaimed (addressed _ works) works turnover receives
  | born unaddressed quiet made receives given =>
      exact .of_born unclaimed unaddressed quiet made receives

variable (catalogue step) in
/-- A step frees only what it detaches, and it installs what it is given. -/
structure Disciplined : Prop where
  filled : ∀ cell, step.target? catalogue = some cell → ∃ representation,
    ((step.after catalogue).cells.get cell).representation = some representation ∧
      ∀ given, step.given? = some given → representation = given
  /-- What is freed was held before. Nothing but a new representation is held afterwards. -/
  detached : ∀ call ∈ step.freed catalogue, ∃ cell representation,
    step.operation.cell? = some cell ∧
      (step.before.cells.get cell).representation = some representation ∧
        call.Frees representation ∧
          (step.target? catalogue = none →
            ((step.after catalogue).cells.get cell).representation = none)
  once : (step.freed catalogue).length ≤ 1
  assigned : step.assigns catalogue = true → step.freed catalogue = []
  /-- Only a free hook can fail after something was freed. -/
  failed : ∀ fault, step.ending catalogue = .error fault → ∀ call ∈ step.freed catalogue,
    call.FailsLast catalogue (step.after catalogue) fault

theorem Disciplined.of_unfreed (unfreed : step.freed catalogue = [])
    (filled : ∀ cell, step.target? catalogue = some cell → ∃ representation,
      ((step.after catalogue).cells.get cell).representation = some representation ∧
        ∀ given, step.given? = some given → representation = given) :
    step.Disciplined catalogue := by
  constructor
  · exact filled
  · simp [unfreed]
  · simp [unfreed]
  · exact fun _ => unfreed
  · simp [unfreed]

theorem Disciplined.of_turnover {cell : CellRef Data}
    {ending : Except Fault (Option (Representation Data))}
    (addressed : step.operation.cell? = some cell)
    (turnover : Turnover catalogue cell step.before ending (step.after catalogue))
    (receives : step.receiver? catalogue = (Turnover.wanted? ending).map fun _ => cell)
    (given : ∀ given, step.given? = some given →
      ∀ wanted, Turnover.wanted? ending = some wanted → wanted = given)
    (failed : ∀ fault, step.ending catalogue = .error fault → ending = .error fault) :
    step.Disciplined catalogue := by
  obtain ⟨made, turned, assigned, fails⟩ := turnover.exists_trace
  have target := target?_eq receives
  rw [assigns_eq turned.calls] at target
  have turning := turned.turns
  have filled : ∀ other, step.target? catalogue = some other → ∃ representation,
      ((step.after catalogue).cells.get other).representation = some representation ∧
        ∀ given, step.given? = some given → representation = given := by
    intro other targeted
    rw [target] at targeted
    obtain ⟨representation, installed, rfl⟩ := Option.map_eq_some_iff.mp targeted
    refine ⟨representation, ?_, fun wanted asked => ?_⟩
    · rw [installed] at turning
      exact turning.held_of_installed
    · exact given wanted asked representation (Turnover.wanted?_of_installed? installed)
  rcases turning.of_installed with unfreed | ⟨call, representation, one, held, frees, left⟩
  · exact .of_unfreed (by rw [freed_eq turned.calls, unfreed]) filled
  · constructor
    · exact filled
    · rw [freed_eq turned.calls, one]
      intro other member
      obtain rfl := List.mem_singleton.mp member
      refine ⟨cell, representation, addressed, held, frees, ?_⟩
      rw [left, target]
      exact Option.map_eq_none_iff.mp
    · rw [freed_eq turned.calls, one]
      exact Nat.le_refl 1
    · rw [assigns_eq turned.calls, freed_eq turned.calls]
      exact assigned
    · rw [freed_eq turned.calls]
      intro fault ended
      exact fails fault (failed fault ended)

variable (catalogue step) in
theorem disciplined : step.Disciplined catalogue := by
  cases step.turning catalogue with
  | quiet unaddressed idle quiet =>
      obtain ⟨made, grown, hooks⟩ := quiet.calls
      refine .of_unfreed (by rw [freed_eq grown, (Harmless.of_hooks hooks).unfreed]) ?_
      rw [target?, idle, ite_self]
      exact nofun
  | @born middle text representation unaddressed quiet made receives given =>
      obtain ⟨calls, grown, hooks⟩ := quiet.calls
      have grown : (step.after catalogue).calls = calls ++ step.before.calls := by
        rw [made, ← grown]
        rfl
      refine .of_unfreed (by rw [freed_eq grown, (Harmless.of_hooks hooks).unfreed]) ?_
      intro cell targeted
      rw [target?, assigns_eq grown, (Harmless.of_hooks hooks).unassigned, receives] at targeted
      obtain ⟨held, rfl, rfl⟩ := Option.map_eq_some_iff.mp targeted
      refine ⟨held, ?_, fun wanted asked => Option.some.inj (given wanted asked)⟩
      rw [made, State.get_addCell_next]
  | worked addressed turnover receives given failed =>
      exact .of_turnover addressed turnover receives given failed

end Step

variable {catalogue : Catalogue Data}

/-- All calls of free hooks. The latest one comes first. -/
def State.frees (state : State Data) : List (HookCall Data) := state.calls.filter HookCall.isFree

variable (catalogue) in
/-- All cells that got a new representation. The latest one comes first. -/
def targets : List (Operation Data) → List (CellRef Data)
  | [] => []
  | operation :: earlier =>
      (Step.target? catalogue ⟨session catalogue earlier, operation⟩).toList ++ targets earlier

variable (catalogue) in
/-- What happened to the representation of each cell. -/
def turns : List (Operation Data) → CellRef Data → List (Turn Data)
  | [] => fun _ => []
  | operation :: earlier => fun cell =>
      Step.turns catalogue ⟨session catalogue earlier, operation⟩ cell ++ turns earlier cell

theorem Throughout.unclaimed {operations : List (Operation Data)}
    (addressed : Throughout catalogue Step.Addressed operations) :
    (session catalogue operations).Unclaimed := by
  induction operations with
  | nil => exact fun _ _ => rfl
  | cons operation earlier inductionHypothesis =>
      obtain ⟨latest, before⟩ := addressed
      exact (Step.balanced (inductionHypothesis before) latest).unclaimed

/-- Every payload that was installed was freed or is still held, and none was freed twice: the
installs and frees of each cell alternate. A free happens when its representation is detached, and
a step that fails in another hook or assigns a payload frees nothing. -/
theorem freed_once {operations : List (Operation Data)}
    (addressed : Throughout catalogue Step.Addressed operations) :
    let state := session catalogue operations
    state.frees.length + state.holding = (targets catalogue operations).length ∧
      (∀ cell, Turns none (turns catalogue operations cell)
        (state.cells.get cell).representation) ∧
        Throughout catalogue (Step.Disciplined catalogue) operations := by
  intro state
  -- The discipline holds of every step by itself, so the induction carries only what adds up.
  suffices counted : state.frees.length + state.holding = (targets catalogue operations).length ∧
      ∀ cell, Turns none (turns catalogue operations cell)
        (state.cells.get cell).representation from
    ⟨counted.1, counted.2, Throughout.of_all (Step.disciplined catalogue) operations⟩
  induction operations with
  | nil => exact ⟨rfl, fun _ => .start⟩
  | cons operation earlier inductionHypothesis =>
      obtain ⟨latest, before⟩ := addressed
      obtain ⟨count, turned⟩ := inductionHypothesis before
      have balanced : Step.Balanced catalogue ⟨session catalogue earlier, operation⟩ :=
        Step.balanced before.unclaimed latest
      refine ⟨?_, fun cell => (turned cell).append (balanced.turns cell)⟩
      have frees : state.frees =
          Step.freed catalogue ⟨session catalogue earlier, operation⟩ ++
            (session catalogue earlier).frees := by
        simp only [state, session, State.frees]
        rw [balanced.calls, List.filter_append]
        rfl
      rw [frees, targets, List.length_append, List.length_append]
      have balance := balanced.balance
      simp only [state, session] at balance count ⊢
      omega

/-- A payload that cannot be freed, a lookup, its copy that is disposed of, and a payload that takes
the place of the answer. -/
theorem freed_once_refused :
    let catalogue : Catalogue Unit :=
      { custom := fun number =>
          { Catalogue.inert.custom number with
            free := fun _ _ => if number = 1 then .error (.raised "busy") else .ok () } }
    let operations : List (Operation Unit) :=
      [.dispose ⟨2⟩, .install ⟨1⟩ (.custom 2) (.object (.data ())),
        .install ⟨0⟩ (.custom 0) (.existing (.plain ())), .duplicate ⟨1⟩,
        .lookup ⟨⟨1⟩, ⟨0⟩, 1, "option", false⟩, .addTable (.ofKeywords ["start", "stop"]),
        .ofText "sta", .ofPayload (.custom 1) (.object (.data ()))]
    let state := session catalogue operations
    Throughout catalogue Step.Addressed operations ∧
      state.frees.length + state.holding = (targets catalogue operations).length ∧
        state.frees.length = 3 ∧ targets catalogue operations = [⟨1⟩, ⟨2⟩, ⟨1⟩, ⟨0⟩] := by
  intro catalogue operations state
  have addressed : Throughout catalogue Step.Addressed operations := by decide +kernel
  have freed : (session catalogue operations).frees.length = 3 := by decide +kernel
  have filled : targets catalogue operations = [⟨1⟩, ⟨2⟩, ⟨1⟩, ⟨0⟩] := by decide +kernel
  exact ⟨addressed, (freed_once addressed).1, freed, filled⟩

end CommandWords
