/-
This file shows that usage errors which are reported as alternatives accumulate into one message,
whatever happens in between.
-/

import CommandWords.Proofs.Interpreter.Results
import CommandWords.Proofs.Lookup.LookupRun
import Mathlib.Data.List.Forall2

namespace CommandWords

variable {Data : Type}

namespace Step

variable (catalogue : Catalogue Data) (interpreter : InterpreterRef Data) (step : Step Data)

/-- The words that a report shows, with rewritten words as the user typed them, and the text behind
them. The words are those of the cells as the report finds them. -/
def line? : Option String :=
  match step.operation with
  | .reportUsage target count words message =>
      let current := step.before.interpreters.get target
      let shown := Action.showWords catalogue (!current.configuration.usage.literalFirstWord)
        (Dispatch.undoAny current.dispatch (Action.firstWords count words))
      (shown.run step.before).1.toOption.map fun printed =>
        " ".intercalate (printed ++ (message.filter (· ≠ "")).toList)
  | _ => none

/-- Whether a report is an alternative to what was reported before. -/
def alternative : Bool := (step.before.interpreters.get interpreter).alternate

/-- The result of an interpreter is set, or a lookup through it fails. -/
def overwrites : Bool :=
  match step.operation with
  | .writeResult target _ => target = interpreter
  | .resolve target _ _ _ _ _ =>
      match step.ending catalogue with
      | .ok (.resolved none) => target = interpreter
      | _ => false
  | _ => false

end Step

/-- The steps that report wrong usage to an interpreter. -/
def reportsTo (interpreter : InterpreterRef Data) (steps : List (Step Data)) :
    List (Step Data) :=
  steps.filter fun step => step.operation.reporter? = some interpreter

/-- The reports to an interpreter can print their words, and all but the first one are alternatives.
Nothing else is written into the result. -/
structure Alternatives (catalogue : Catalogue Data) (interpreter : InterpreterRef Data)
    (steps : List (Step Data)) (first : Step Data) (others : List (Step Data)) : Prop where
  reports : reportsTo interpreter steps = first :: others
  printed : ∀ report ∈ first :: others, (report.ending catalogue).isOk
  fresh : first.alternative interpreter = false
  alternative : ∀ report ∈ others, report.alternative interpreter = true
  kept : ∀ step ∈ steps, step.overwrites catalogue interpreter = false

variable {catalogue : Catalogue Data}

namespace Action

theorem usageText_ending (words : List (CellRef Data)) (options : UsageOptions Data)
    (state : State Data) :
    ((usageText catalogue words options).run state).1 =
      ((showWords catalogue (!options.literalFirstWord)
        (Dispatch.undoAny options.dispatch words)).run state).1.map fun printed =>
          Message.usage (" ".intercalate (printed ++ (options.message.filter (· ≠ "")).toList))
            options.previous :=
  run_map_ending _ _ state

/-- A report ends well if its text can be worded. -/
theorem reportUsage_ending (interpreter : InterpreterRef Data) (count : Number)
    (words : List (CellRef Data)) (message : Option String) (state : State Data) :
    ((reportUsage catalogue interpreter count words message).run state).1 =
      ((usageText catalogue (firstWords count words)
        (state.usageOptions interpreter message)).run state).1.map fun _ => () := by
  rw [run_reportUsage, run_bind]
  generalize (usageText catalogue _ _).run state = ended
  obtain ⟨ending, later⟩ := ended
  cases ending <;> rfl

end Action

namespace Step

variable {interpreter : InterpreterRef Data} {step : Step Data}

/-- A report that ends well appends its line or starts a message with it. -/
theorem exists_line (reports : step.operation.reporter? = some interpreter)
    (printed : (step.ending catalogue).isOk) :
    ∃ line, step.line? catalogue = some line ∧
      step.resultOf? catalogue interpreter = some (Message.usage line
        (if step.alternative interpreter then
          some (step.before.interpreters.get interpreter).result else none)) := by
  obtain ⟨before, operation⟩ := step
  cases operation with
  | reportUsage target count words message =>
      obtain rfl : target = interpreter := Option.some.inj reports
      rw [Step.ending, Operation.perform, Action.run_map_ending, Action.reportUsage_ending,
        Action.usageText_ending] at printed
      simp only [line?, resultOf?, written?]
      rw [Action.usageText_ending]
      simp only [State.usageOptions] at printed ⊢
      generalize ((Action.showWords catalogue _ _).run before).1 = shown at printed ⊢
      cases shown with
      | error fault => cases printed
      | ok printed => exact ⟨_, rfl, if_pos rfl⟩
  | _ => cases reports

/-- Nothing else than reports and what overwrites a result writes into it. -/
theorem resultOf?_eq_none (other : step.operation.reporter? ≠ some interpreter)
    (kept : step.overwrites catalogue interpreter = false) :
    step.resultOf? catalogue interpreter = none := by
  obtain ⟨before, operation⟩ := step
  cases operation with
  | writeResult target result => exact if_neg (of_decide_eq_false kept)
  | resolve target cell table stride label exact =>
      let settings := (before.interpreters.get target).configuration.lookup
      let question : Question Data :=
        ⟨cell, table, stride, label, exact.getD settings.exactByDefault⟩
      simp only [resultOf?, written?]
      split
      next failure effort found =>
        -- A lookup that fails ends without an index.
        have ended : Step.ending catalogue
            ⟨before, .resolve target cell table stride label exact⟩ = .ok (.resolved none) := by
          rw [Step.ending, Operation.perform, Action.run_map_ending, Action.run_resolve,
            Action.run_bind]
          generalize (question.ask catalogue).run before = ended at found
          obtain ⟨ending, later⟩ := ended
          cases found
          rfl
        simp only [overwrites, ended] at kept
        exact if_neg (of_decide_eq_false kept)
      next => rfl
  | reportUsage target count words message =>
      have different : target ≠ interpreter := fun same => other (congrArg some same)
      simp only [resultOf?, written?]
      cases (Action.run _ before).1.toOption with
      | none => rfl
      | some result => exact if_neg different
  | _ => rfl

end Step

/-- The message after some reports, each with its mode and its line. -/
def collected (result : String) (reports : List (Bool × String)) : String :=
  reports.foldl
    (fun text report => Message.usage report.2 (if report.1 then some text else none)) result

/-- A report with its mode and its line. -/
def Step.Shows (catalogue : Catalogue Data) (interpreter : InterpreterRef Data)
    (report : Step Data) (shown : Bool × String) : Prop :=
  report.alternative interpreter = shown.1 ∧ report.line? catalogue = some shown.2

/-- The reports of a run are the only steps that change the result. -/
theorem Links.collected {interpreter : InterpreterRef Data} {result last : String}
    {steps : List (Step Data)} (links : Links catalogue interpreter result steps last)
    (printed : ∀ report ∈ reportsTo interpreter steps, (report.ending catalogue).isOk)
    (kept : ∀ step ∈ steps, step.overwrites catalogue interpreter = false) :
    ∃ shown, List.Forall₂ (Step.Shows catalogue interpreter) (reportsTo interpreter steps) shown ∧
      last = CommandWords.collected result shown := by
  induction links with
  | nil result => exact ⟨[], .nil, rfl⟩
  | @cons step rest last exist later inductionHypothesis =>
      obtain ⟨keeps, others⟩ := List.forall_mem_cons.mp kept
      have after : ((step.after catalogue).interpreters.get interpreter).result =
          (step.resultOf? catalogue interpreter).getD
            (step.before.interpreters.get interpreter).result := step.result_after exist
      by_cases reports : step.operation.reporter? = some interpreter
      · rw [reportsTo, List.filter_cons_of_pos (by simpa using reports)] at printed ⊢
        obtain ⟨ends, rest⟩ := List.forall_mem_cons.mp printed
        obtain ⟨line, shows, writes⟩ := step.exists_line reports ends
        obtain ⟨shown, all, result⟩ := inductionHypothesis rest others
        refine ⟨(step.alternative interpreter, line) :: shown, .cons ⟨rfl, shows⟩ all, ?_⟩
        rw [result, after, writes]
        rfl
      · rw [reportsTo, List.filter_cons_of_neg (by simpa using reports)] at printed ⊢
        obtain ⟨shown, all, result⟩ := inductionHypothesis printed others
        refine ⟨shown, all, ?_⟩
        rw [result, after, step.resultOf?_eq_none reports keeps]
        rfl

def quoted (line : String) : String := "\"" ++ line ++ "\""

theorem usage_previous (line previous : String) :
    Message.usage line (some previous) = previous ++ " or " ++ quoted line := by
  have opening : " or \"" = " or " ++ "\"" := rfl
  simp only [Message.usage, quoted, opening, String.append_assoc]

/-- Alternatives are joined behind the text that is there. -/
theorem collected_alternatives (text : String) (lines : List String) :
    collected text (lines.map fun line => (true, line)) =
      " or ".intercalate (text :: lines.map quoted) := by
  induction lines generalizing text with
  | nil => exact String.intercalate_singleton.symm
  | cons line rest inductionHypothesis =>
      calc collected text ((line :: rest).map fun line => (true, line))
        _ = collected (text ++ " or " ++ quoted line) (rest.map fun line => (true, line)) := by
          rw [← usage_previous]
          rfl
        _ = " or ".intercalate ((text ++ " or " ++ quoted line) :: rest.map quoted) :=
          inductionHypothesis _
        _ = " or ".intercalate (text :: (line :: rest).map quoted) := by
          rw [String.intercalate_cons_append, List.map_cons, String.intercalate_cons_cons]

/-- A first message with its alternatives. -/
theorem collected_message (result first : String) (others : List String) :
    collected result ((false, first) :: others.map fun line => (true, line)) =
      "wrong # args: should be " ++ " or ".intercalate ((first :: others).map quoted) := by
  have message : collected result ((false, first) :: others.map fun line => (true, line)) =
      collected ("wrong # args: should be " ++ quoted first)
        (others.map fun line => (true, line)) := by
    simp only [collected, List.foldl_cons, Message.usage, Message.wrongArguments, quoted,
      String.append_assoc, Bool.false_eq_true, if_false]
  rw [message, collected_alternatives, String.intercalate_cons_append, List.map_cons]

/-- Reports that are all alternatives show nothing but lines. -/
theorem exists_lines {interpreter : InterpreterRef Data} {reports : List (Step Data)}
    {shown : List (Bool × String)}
    (alternative : ∀ report ∈ reports, report.alternative interpreter = true)
    (all : List.Forall₂ (Step.Shows catalogue interpreter) reports shown) :
    ∃ lines, shown = lines.map (fun line => (true, line)) ∧
      List.Forall₂ (fun report line => report.line? catalogue = some line) reports lines := by
  induction all with
  | nil => exact ⟨[], rfl, .nil⟩
  | @cons report call reports shown shows rest inductionHypothesis =>
      obtain ⟨mode, others⟩ := List.forall_mem_cons.mp alternative
      obtain ⟨lines, rfl, all⟩ := inductionHypothesis others
      obtain ⟨found, line⟩ := shows
      obtain ⟨flag, text⟩ := call
      obtain rfl : true = flag := mode.symm.trans found
      exact ⟨text :: lines, rfl, .cons line all⟩

/-- Usage errors that are reported as alternatives of a first one make up one message. It lists
their lines in the order of the reports. -/
theorem alternatives_accumulate {program : Program Data} {start : State Data}
    {interpreter : InterpreterRef Data} (exist : start.interpreters.has interpreter)
    {first : Step Data} {others : List (Step Data)}
    (alternatives :
      Alternatives catalogue interpreter (program.steps catalogue start) first others) :
    ∃ lines,
      List.Forall₂ (fun report line => report.line? catalogue = some line) (first :: others)
        lines ∧
      (((program.run catalogue).run start).2.interpreters.get interpreter).result =
        "wrong # args: should be " ++ " or ".intercalate (lines.map quoted) := by
  have links := (program.leads catalogue exist).links
  obtain ⟨shown, all, result⟩ := links.collected
    (fun report member => alternatives.printed report (alternatives.reports ▸ member))
    alternatives.kept
  rw [alternatives.reports] at all
  cases all with
  | @cons _ call _ rest shows others =>
      obtain ⟨lines, rfl, all⟩ := exists_lines alternatives.alternative others
      obtain ⟨mode, line⟩ := shows
      obtain ⟨flag, text⟩ := call
      obtain rfl : false = flag := alternatives.fresh.symm.trans mode
      refine ⟨text :: lines, .cons line all, ?_⟩
      rw [result, collected_message]

/-- A cell prints its text at first and its keyword after a lookup, and a dispatch is undone. -/
theorem alternatives_accumulate_nested :
    let report (cell : Nat) (message : Option String) : Program Unit :=
      .perform (.reportUsage ⟨0⟩ 1 [⟨cell⟩] message) .done
    let program : Program Unit :=
      .perform (.reportUsage ⟨0⟩ 2 [⟨0⟩, ⟨1⟩] (some "name"))
        (.perform (.resolve ⟨0⟩ ⟨0⟩ ⟨0⟩ 1 "option" none)
          (.withAlternate ⟨0⟩ (.withDispatch ⟨0⟩ ⟨[⟨1⟩], 1, 1⟩ (report 0 (some ""))
            (report 0 none)) .done))
    let start := session .inert [.addInterpreter .standard, .ofText "list", .ofText "sta",
      .addTable (.ofKeywords ["start", "stop"])]
    let result := (((program.run .inert).run start).2.interpreters.get ⟨0⟩).result
    start.interpreters.has ⟨0⟩ ∧
      result = "wrong # args: should be \"sta list name\" or \"list\" or \"start\"" ∧
        ∃ first others lines,
          Alternatives .inert ⟨0⟩ (program.steps .inert start) first others ∧
            List.Forall₂ (fun report line => report.line? .inert = some line) (first :: others)
              lines ∧
            result = "wrong # args: should be " ++ " or ".intercalate (lines.map quoted) := by
  intro report program start result
  have exist : start.interpreters.has ⟨0⟩ := by decide +kernel
  refine ⟨exist, by decide +kernel, ?_⟩
  let reports := reportsTo ⟨0⟩ (program.steps .inert start)
  have modes : reports.map (Step.alternative ⟨0⟩) = [false, true, true] := by decide +kernel
  have printed : ∀ report ∈ reports, (report.ending .inert).isOk := by decide +kernel
  have kept : ∀ step ∈ program.steps .inert start, step.overwrites .inert ⟨0⟩ = false := by
    decide +kernel
  obtain ⟨first, others, found⟩ : ∃ first others, reports = first :: others := by
    cases some : reports with
    | nil => rw [some] at modes; cases modes
    | cons first others => exact ⟨first, others, rfl⟩
  rw [found, List.map_cons, List.cons.injEq] at modes
  have alternatives : Alternatives .inert ⟨0⟩ (program.steps .inert start) first others :=
    { reports := found
      printed := found ▸ printed
      fresh := modes.1
      alternative := by
        intro report member
        have mode : report.alternative ⟨0⟩ ∈ [true, true] :=
          modes.2 ▸ List.mem_map_of_mem member
        simpa using mode
      kept := kept }
  obtain ⟨lines, all, text⟩ := alternatives_accumulate exist alternatives
  exact ⟨first, others, lines, alternatives, all, text⟩

end CommandWords
