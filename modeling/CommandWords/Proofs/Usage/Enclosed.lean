/-
This file shows what becomes of a result when all usage errors are reported inside scopes that make
them alternatives. They are joined behind the result that was there, even if it is empty.
-/

import CommandWords.Proofs.Usage.Alternatives

namespace CommandWords

variable {Data : Type} {catalogue : Catalogue Data} {interpreter : InterpreterRef Data}

/-- The operation assigns the mode of an interpreter directly. -/
def Operation.AssignsMode (interpreter : InterpreterRef Data) : Operation Data → Prop
  | setAlternate target _ => target = interpreter
  | _ => False

/-- Every report to an interpreter stands inside a scope that makes it an alternative, and the mode
is never assigned directly. -/
def Program.Encloses (interpreter : InterpreterRef Data) : (inside : Bool) → Program Data → Prop
  | _, done => True
  | inside, ledger _ rest => Encloses interpreter inside rest
  | inside, perform operation rest =>
      (operation.reporter? = some interpreter → inside = true) ∧
        ¬ operation.AssignsMode interpreter ∧ Encloses interpreter inside rest
  | _, throw _ => True
  | inside, attempt body rest =>
      Encloses interpreter inside body ∧ Encloses interpreter inside rest
  | inside, withDispatch _ _ body rest =>
      Encloses interpreter inside body ∧ Encloses interpreter inside rest
  | inside, withAlternate target body rest =>
      Encloses interpreter (inside || target = interpreter) body ∧
        Encloses interpreter inside rest

namespace State

/-- The mode in which an interpreter takes usage errors. -/
def mode (state : State Data) (interpreter : InterpreterRef Data) : Bool :=
  (state.interpreters.get interpreter).alternate

theorem mode_updateInterpreter (state : State Data) (target : InterpreterRef Data)
    {update : Interpreter (CellRef Data) → Interpreter (CellRef Data)}
    (kept : target = interpreter → ∀ current, (update current).alternate = current.alternate) :
    (state.updateInterpreter target update).mode interpreter = state.mode interpreter := by
  unfold mode updateInterpreter
  by_cases same : interpreter = target
  · subst same
    rw [Store.get_set_self, kept rfl]
  · rw [Store.get_set_other _ same]

/-- The mode of an interpreter that is set is the one of this interpreter alone. -/
theorem mode_setAlternate (state : State Data) (target : InterpreterRef Data) (alternate : Bool) :
    (state.setAlternate target alternate).mode interpreter =
      if target = interpreter then alternate else state.mode interpreter := by
  split
  next same =>
    subst same
    exact state.alternate_setAlternate target alternate
  next different =>
    exact state.mode_updateInterpreter target fun same => absurd same different

theorem mode_setDispatch (state : State Data) (target : InterpreterRef Data)
    (dispatch : Option (Dispatch (CellRef Data))) :
    (state.setDispatch target dispatch).mode interpreter = state.mode interpreter :=
  state.mode_updateInterpreter target fun _ _ => rfl

end State

/-- Only an assignment changes the mode of an interpreter that exists. -/
theorem Step.mode_after {step : Step Data} (exist : step.before.interpreters.has interpreter)
    (unassigned : ¬ step.operation.AssignsMode interpreter) :
    (step.after catalogue).mode interpreter = step.before.mode interpreter := by
  rw [State.mode, interpreters_after]
  split
  next configuration adds =>
    rw [Store.get_add_of_has exist, State.mode]
  next target alternate sets =>
    rw [sets] at unassigned
    exact (step.before.mode_setAlternate target alternate).trans (if_neg unassigned)
  next target dispatch sets => exact step.before.mode_setDispatch target dispatch
  next =>
    cases step.written? catalogue with
    | none => rfl
    | some written =>
        let write : Interpreter (CellRef Data) → Interpreter (CellRef Data) := fun current =>
          { current with result := written.2 }
        have kept : (step.before.updateInterpreter written.1 write).mode interpreter =
            step.before.mode interpreter :=
          step.before.mode_updateInterpreter written.1 fun _ _ => rfl
        exact kept

namespace Program

/-- The reports of some steps are alternatives, and the mode is the old one afterwards. -/
structure Collects (interpreter : InterpreterRef Data) (steps : List (Step Data))
    (start last : State Data) : Prop where
  alternative : ∀ report ∈ reportsTo interpreter steps, report.alternative interpreter = true
  mode : last.mode interpreter = start.mode interpreter

theorem Collects.nil (state : State Data) : Collects interpreter [] state state :=
  ⟨fun _ member => absurd member List.not_mem_nil, rfl⟩

theorem Collects.append {steps more : List (Step Data)} {start middle last : State Data}
    (collects : Collects interpreter steps start middle)
    (next : Collects interpreter more middle last) :
    Collects interpreter (steps ++ more) start last := by
  refine ⟨?_, next.mode.trans collects.mode⟩
  rw [reportsTo, List.filter_append]
  exact List.forall_mem_append.mpr ⟨collects.alternative, next.alternative⟩

/-- A program that encloses its reports collects them, as long as the mode is the one that it needs
where it starts. -/
theorem Encloses.collects {program : Program Data} {inside : Bool} {start : State Data}
    (encloses : program.Encloses interpreter inside) (exist : start.interpreters.has interpreter)
    (needed : inside = true → start.mode interpreter = true) :
    Collects interpreter (program.steps catalogue start) start
      ((program.run catalogue).run start).2 := by
  -- The body of a scope needs its own mode, so the induction is over all modes and states.
  induction program generalizing inside start with
  | done => exact .nil start
  | ledger call rest restHypothesis =>
      let noted : State Data := { start with ledger := call.after start.ledger }
      have exist : noted.interpreters.has interpreter := exist
      have collects := restHypothesis encloses exist needed
      exact ⟨collects.alternative, collects.mode⟩
  | perform operation rest restHypothesis =>
      obtain ⟨enclosed, unassigned, later⟩ := encloses
      let step : Step Data := ⟨start, operation⟩
      have mode : (step.after catalogue).mode interpreter = start.mode interpreter :=
        step.mode_after exist unassigned
      have performed : Collects interpreter [step] start (step.after catalogue) := by
        refine ⟨?_, mode⟩
        intro report member
        obtain ⟨here, reports⟩ := List.mem_filter.mp member
        obtain rfl := List.mem_singleton.mp here
        exact needed (enclosed (of_decide_eq_true reports))
      exact continued Collects.append performed (restHypothesis later (step.exists_after exist)
        fun within => mode.trans (needed within))
  | throw fault => exact .nil start
  | attempt body rest bodyHypothesis restHypothesis =>
      have first := bodyHypothesis encloses.1 exist needed
      have present := (body.leads catalogue exist).exist
      exact first.append (restHypothesis encloses.2 present fun within =>
        first.mode.trans (needed within))
  | withDispatch target dispatch body rest bodyHypothesis restHypothesis =>
      let opened := start.setDispatch target (some dispatch)
      have opening : opened.mode interpreter = start.mode interpreter := start.mode_setDispatch ..
      have present : opened.interpreters.has interpreter := exist
      have inner := bodyHypothesis encloses.1 present fun within => opening.trans (needed within)
      have closing : ((Action.withDispatch target dispatch (body.run catalogue)).run start).2.mode
          interpreter = start.mode interpreter :=
        (State.mode_setDispatch ..).trans (inner.mode.trans opening)
      exact continued Collects.append ⟨inner.alternative, closing⟩
        (restHypothesis encloses.2 (body.leads catalogue present).exist fun within =>
          closing.trans (needed within))
  | withAlternate target body rest bodyHypothesis restHypothesis =>
      let opened := start.setAlternate target true
      have opening : opened.mode interpreter =
          if target = interpreter then true else start.mode interpreter :=
        start.mode_setAlternate target true
      have present : opened.interpreters.has interpreter := exist
      have inner := bodyHypothesis encloses.1 present (by
        intro within
        rw [opening]
        split
        next => rfl
        next different => exact needed (by simpa [different] using within))
      have closing : ((Action.withAlternate target (body.run catalogue)).run start).2.mode
          interpreter = start.mode interpreter := by
        show (((body.run catalogue).run opened).2.setAlternate target
          (start.interpreters.get target).alternate).mode interpreter = _
        rw [State.mode_setAlternate]
        split
        next same => rw [same, State.mode]
        next different => rw [inner.mode, opening, if_neg different]
      exact continued Collects.append ⟨inner.alternative, closing⟩
        (restHypothesis encloses.2 (body.leads catalogue present).exist fun within =>
          closing.trans (needed within))

end Program

/-- All usage errors of a program are reported inside scopes that make them alternatives, and they
can print their words. Nothing else is written into the result. -/
structure Gathers (catalogue : Catalogue Data) (interpreter : InterpreterRef Data)
    (program : Program Data) (start : State Data) : Prop where
  encloses : program.Encloses interpreter false
  reports : reportsTo interpreter (program.steps catalogue start) ≠ []
  printed : ∀ report ∈ reportsTo interpreter (program.steps catalogue start),
    (report.ending catalogue).isOk
  kept : ∀ step ∈ program.steps catalogue start, step.overwrites catalogue interpreter = false

/-- A text that is joined behind nothing begins with the separator. -/
theorem intercalate_nothing_ne (line : String) (lines : List String) (usage : String) :
    " or ".intercalate ("" :: quoted line :: lines) ≠ "wrong # args: should be " ++ usage := by
  intro same
  rw [String.intercalate_cons_cons, String.append_assoc, String.empty_append] at same
  have letters := congrArg String.toList same
  simp at letters

/-- Usage errors that are all reported as alternatives are joined behind the result that was there.
They go on with a message, but behind an empty result they make up none. -/
theorem alternatives_follow_result {program : Program Data} {start : State Data}
    (exist : start.interpreters.has interpreter)
    (gathers : Gathers catalogue interpreter program start) :
    let former := (start.interpreters.get interpreter).result
    let result := (((program.run catalogue).run start).2.interpreters.get interpreter).result
    ∃ lines,
      List.Forall₂ (fun report line => report.line? catalogue = some line)
        (reportsTo interpreter (program.steps catalogue start)) lines ∧
      result = " or ".intercalate (former :: lines.map quoted) ∧
      (∀ earlier, former = "wrong # args: should be " ++ earlier →
        result = "wrong # args: should be " ++
          " or ".intercalate (earlier :: lines.map quoted)) ∧
      (former = "" → ∀ usage, result ≠ "wrong # args: should be " ++ usage) := by
  intro former result
  have links := (program.leads catalogue exist).links
  obtain ⟨shown, all, joined⟩ := links.collected gathers.printed gathers.kept
  have collects : Program.Collects interpreter (program.steps catalogue start) start
      ((program.run catalogue).run start).2 :=
    gathers.encloses.collects exist fun outside => nomatch outside
  obtain ⟨lines, rfl, written⟩ := exists_lines collects.alternative all
  have text : result = " or ".intercalate (former :: lines.map quoted) :=
    joined.trans (collected_alternatives former lines)
  refine ⟨lines, written, text, ?_, ?_⟩
  · intro earlier begins
    rw [text, begins, String.intercalate_cons_append]
  · intro nothing usage
    have present : lines ≠ [] := by
      rintro rfl
      exact gathers.reports (List.forall₂_nil_right_iff.mp written)
    obtain ⟨line, others, rfl⟩ := List.exists_cons_of_ne_nil present
    rw [text, nothing]
    exact intercalate_nothing_ne line (others.map quoted) usage

/-- A result was cleared before its interpreter dispatches a command. A fault leaves an inner scope
after its report, and the outer scope goes on. -/
theorem alternatives_follow_result_cleared :
    let report (cell : Nat) (message : Option String) (rest : Program Unit) : Program Unit :=
      .perform (.reportUsage ⟨0⟩ 1 [⟨cell⟩] message) rest
    let program : Program Unit :=
      .withDispatch ⟨0⟩ ⟨[⟨1⟩], 1, 1⟩
        (.withAlternate ⟨0⟩
          (.attempt (.withAlternate ⟨0⟩ (report 0 (some "name") (.throw .formless)) .done)
            (report 0 none .done)) .done) .done
    let start := session .inert
      [.writeResult ⟨0⟩ "", .writeResult ⟨0⟩ "old", .addInterpreter .standard, .ofText "list",
        .ofText "sta"]
    let result := (((program.run .inert).run start).2.interpreters.get ⟨0⟩).result
    start.interpreters.has ⟨0⟩ ∧ Gathers .inert ⟨0⟩ program start ∧
      (start.interpreters.get ⟨0⟩).result = "" ∧ result = " or \"list name\" or \"list\"" ∧
        ∀ usage, result ≠ "wrong # args: should be " ++ usage := by
  intro report program start result
  have exist : start.interpreters.has ⟨0⟩ := by decide +kernel
  have gathers : Gathers .inert ⟨0⟩ program start :=
    { encloses := by simp [program, report, Program.Encloses, Operation.AssignsMode]
      reports := by decide +kernel
      printed := by decide +kernel
      kept := by decide +kernel }
  have nothing : (start.interpreters.get ⟨0⟩).result = "" := by decide +kernel
  obtain ⟨lines, _, _, _, unfounded⟩ := alternatives_follow_result exist gathers
  exact ⟨exist, gathers, nothing, by decide +kernel, unfounded nothing⟩

/-- The alternatives of a new interpreter are no message. -/
theorem alternatives_without_message :
    let program : Program Unit :=
      .withAlternate ⟨0⟩
        (.perform (.reportUsage ⟨0⟩ 1 [⟨0⟩] (some "ms"))
          (.perform (.reportUsage ⟨0⟩ 1 [⟨0⟩] (some "cancel id")) .done)) .done
    let start := session .inert [.addInterpreter .standard, .ofText "after"]
    let result := (((program.run .inert).run start).2.interpreters.get ⟨0⟩).result
    (start.interpreters.get ⟨0⟩).result = "" ∧
      (reportsTo ⟨0⟩ (program.steps .inert start)).map (Step.line? .inert) =
        [some "after ms", some "after cancel id"] ∧
      result = " or \"after ms\" or \"after cancel id\"" ∧
      result ≠ "wrong # args: should be \"after ms\" or \"after cancel id\"" := by
  decide +kernel

end CommandWords
