/-
This file shows that an interpreter has the result that was written into it last, and that no step
on another interpreter changes it.
-/

import CommandWords.Proofs.Interpreter.Results
import CommandWords.Proofs.Session.KeptText

namespace CommandWords

variable {Data : Type} {catalogue : Catalogue Data}

/-- The interpreter that an operation works on. -/
def Operation.interpreter? : Operation Data → Option (InterpreterRef Data)
  | writeResult interpreter _ => some interpreter
  | setAlternate interpreter _ => some interpreter
  | setDispatch interpreter _ => some interpreter
  | resolve interpreter _ _ _ _ _ => some interpreter
  | reportUsage interpreter _ _ _ => some interpreter
  | _ => none

namespace Step

/-- The interpreter exists and the step writes this text into its result. A lookup writes nothing
unless it fails, and a report nothing unless it is printed. -/
inductive Writes (catalogue : Catalogue Data) (interpreter : InterpreterRef Data) :
    Step Data → String → Prop
  | given {state : State Data} (exist : state.interpreters.has interpreter = true)
      (result : String) : Writes catalogue interpreter ⟨state, .writeResult interpreter result⟩ result
  | failed {state : State Data} {cell : CellRef Data} {table : Ref Table} {stride : Number}
      {label : String} {exact : Option Bool} {question : Question Data}
      {failure : Failure Diagnostic} {effort : Effort}
      (exist : state.interpreters.has interpreter = true)
      (asks : Operation.question? state (.resolve interpreter cell table stride label exact) =
        some question)
      (fails : ((question.ask catalogue).run state).1 = .ok (.fail failure effort)) :
      Writes catalogue interpreter ⟨state, .resolve interpreter cell table stride label exact⟩
        failure.message
  | reported {state : State Data} {count : Number} {words : List (CellRef Data)}
      {message : Option String} {line : String}
      (exist : state.interpreters.has interpreter = true)
      (shown : ((Action.usageText catalogue (Action.firstWords count words)
        (state.usageOptions interpreter message)).run state).1 = .ok line) :
      Writes catalogue interpreter ⟨state, .reportUsage interpreter count words message⟩ line

variable {interpreter other : InterpreterRef Data} {step : Step Data} {text : String}

theorem Writes.exist (writes : step.Writes catalogue interpreter text) :
    step.before.interpreters.has interpreter = true := by
  cases writes with
  | given exist result => exact exist
  | failed exist asks fails => exact exist
  | reported exist shown => exact exist

theorem writes_iff (exist : step.before.interpreters.has interpreter = true) :
    step.Writes catalogue interpreter text ↔
      step.resultOf? catalogue interpreter = some text := by
  constructor
  · intro writes
    cases writes with
    | given exist result => simp [resultOf?, written?]
    | failed exist asks fails =>
        cases asks
        simp [resultOf?, written?, fails]
    | reported exist shown =>
        simp only [resultOf?, written?, shown]
        exact if_pos rfl
  · intro found
    obtain ⟨state, operation⟩ := step
    unfold resultOf? written? at found
    cases operation with
    | writeResult target result =>
        simp at found
        obtain ⟨rfl, rfl⟩ := found
        exact .given exist _
    | resolve target cell table stride label exact =>
        dsimp only at found
        split at found
        next failure effort fails =>
          simp at found
          obtain ⟨rfl, rfl⟩ := found
          exact .failed exist rfl fails
        next => cases found
    | reportUsage target count words message =>
        dsimp only at found
        cases shown : ((Action.usageText catalogue (Action.firstWords count words)
            (state.usageOptions target message)).run state).1 with
        | error fault =>
            rw [shown] at found
            cases found
        | ok line =>
            rw [shown] at found
            simp [Except.toOption] at found
            obtain ⟨rfl, rfl⟩ := found
            exact .reported exist shown
    | _ => cases found

variable (catalogue) (step) in
/-- The step writes into the interpreter, or leaves the result that it found. -/
theorem result_cases (exist : step.before.interpreters.has interpreter = true) :
    let result := ((step.after catalogue).interpreters.get interpreter).result
    step.Writes catalogue interpreter result ∨
      (∀ text, ¬ step.Writes catalogue interpreter text) ∧
        result = (step.before.interpreters.get interpreter).result := by
  intro result
  have after : result = _ := step.result_after exist
  cases written : step.resultOf? catalogue interpreter with
  | some text =>
      rw [written] at after
      rw [after]
      exact .inl ((writes_iff exist).mpr written)
  | none =>
      rw [written] at after
      refine .inr ⟨?_, after⟩
      intro text writes
      cases written.symm.trans ((writes_iff exist).mp writes)

/-- The write of a result touches one interpreter. -/
theorem get_written (interpreters : Store (Interpreter (CellRef Data)))
    (written : Option (InterpreterRef Data × String))
    (apart : ∀ result, written ≠ some (other, result)) :
    (interpreters.written written).get other = interpreters.get other := by
  cases written with
  | none => rfl
  | some write =>
      obtain ⟨target, result⟩ := write
      have different : other ≠ target := by
        rintro rfl
        exact apart result rfl
      exact Store.get_set_other _ different _

/-- A step writes into the interpreter that it works on. -/
theorem interpreter_of_written {result : String}
    (written : step.written? catalogue = some (interpreter, result)) :
    step.operation.interpreter? = some interpreter := by
  obtain ⟨state, operation⟩ := step
  unfold written? at written
  cases operation with
  | writeResult target text =>
      cases written
      rfl
  | resolve target cell table stride label exact =>
      dsimp only at written
      split at written
      next failure effort fails =>
        cases written
        rfl
      next => cases written
  | reportUsage target count words message =>
      obtain ⟨line, _, same⟩ := Option.map_eq_some_iff.mp written
      cases same
      rfl
  | _ => cases written

/-- A step leaves an interpreter alone that it does not work on. -/
theorem interpreter_other (exist : step.before.interpreters.has other = true)
    (apart : step.operation.interpreter? ≠ some other) :
    (step.after catalogue).interpreters.get other = step.before.interpreters.get other := by
  rw [interpreters_after]
  split
  next configuration adds => exact Store.get_add_of_has exist _
  next target alternate sets =>
    rw [sets] at apart
    exact Store.get_set_other _ (fun same => apart (congrArg some same.symm)) _
  next target dispatch sets =>
    rw [sets] at apart
    exact Store.get_set_other _ (fun same => apart (congrArg some same.symm)) _
  next =>
    apply get_written
    intro result written
    exact apart (interpreter_of_written written)

theorem configuration_after (exist : step.before.interpreters.has interpreter = true) :
    ((step.after catalogue).interpreters.get interpreter).configuration =
      (step.before.interpreters.get interpreter).configuration := by
  have kept (interpreters : Store (Interpreter (CellRef Data))) (target : InterpreterRef Data)
      {updated : Interpreter (CellRef Data)}
      (same : updated.configuration = (interpreters.get target).configuration) :
      ((interpreters.set target updated).get interpreter).configuration =
        (interpreters.get interpreter).configuration := by
    by_cases equal : interpreter = target
    · rw [equal, Store.get_set_self, same]
    · rw [Store.get_set_other _ equal]
  rw [interpreters_after]
  split
  next configuration adds => rw [Store.get_add_of_has exist]
  next target alternate sets => exact kept _ _ rfl
  next target dispatch sets => exact kept _ _ rfl
  next =>
    cases step.written? catalogue with
    | none => rfl
    | some written => exact kept _ _ rfl

variable (step) in
/-- An interpreter that comes to exist has an empty result. -/
theorem fresh_of_exists (unborn : step.before.interpreters.has interpreter = false)
    (exist : (step.after catalogue).interpreters.has interpreter = true) :
    ((step.after catalogue).interpreters.get interpreter).result = "" := by
  have absent : ¬ step.before.interpreters.has interpreter = true := by simp [unborn]
  rw [interpreters_after] at exist ⊢
  split at exist
  next configuration adds =>
    by_cases next : interpreter = step.before.interpreters.next
    · rw [next, Store.get_add_next]
      rfl
    · exact absurd (Store.has_of_add next exist) absent
  next target alternate sets => exact absurd exist absent
  next target dispatch sets => exact absurd exist absent
  next =>
    cases written : step.written? catalogue with
    | none =>
        rw [written] at exist
        exact absurd exist absent
    | some write =>
        rw [written] at exist
        exact absurd exist absent

end Step

/-- An interpreter that did not come to exist in a run was never written into. -/
theorem unwritten_of_unborn {operations : List (Operation Data)}
    {interpreter : InterpreterRef Data}
    (unborn : (session catalogue operations).interpreters.has interpreter = false) :
    Throughout catalogue (fun step => ∀ text, ¬ step.Writes catalogue interpreter text)
      operations := by
  induction operations with
  | nil => trivial
  | cons operation earlier inductionHypothesis =>
      have before : (session catalogue earlier).interpreters.has interpreter = false := by
        cases born : (session catalogue earlier).interpreters.has interpreter with
        | false => rfl
        | true =>
            let step : Step Data := ⟨session catalogue earlier, operation⟩
            have exist : (step.after catalogue).interpreters.has interpreter = true :=
              step.exists_after born
            cases unborn.symm.trans exist
      refine ⟨?_, inductionHypothesis before⟩
      intro text writes
      cases before.symm.trans writes.exist

/-- The result of an interpreter is the text that was written into it last. -/
theorem session_result {operations : List (Operation Data)} {interpreter : InterpreterRef Data}
    (exist : (session catalogue operations).interpreters.has interpreter = true) :
    let result := ((session catalogue operations).interpreters.get interpreter).result
    let unwritten := fun step : Step Data => ∀ text, ¬ step.Writes catalogue interpreter text
    result = "" ∧ Throughout catalogue unwritten operations ∨
      ∃ later operation past, operations = later ++ operation :: past ∧
        Step.Writes catalogue interpreter ⟨session catalogue past, operation⟩ result ∧
          During catalogue unwritten (operation :: past) later := by
  intro result unwritten
  induction operations with
  | nil => cases exist
  | cons operation earlier inductionHypothesis =>
      cases before : (session catalogue earlier).interpreters.has interpreter with
      | false =>
          refine .inl ⟨Step.fresh_of_exists ⟨_, operation⟩ before exist, ?_, ?_⟩
          · intro text writes
            cases before.symm.trans writes.exist
          · exact unwritten_of_unborn before
      | true =>
          have cases := Step.result_cases catalogue ⟨_, operation⟩ before
          rcases cases with writes | ⟨silent, kept⟩
          · exact .inr ⟨[], operation, earlier, rfl, writes, trivial⟩
          · rcases inductionHypothesis before with
              ⟨empty, never⟩ | ⟨later, writing, past, rfl, writes, since⟩
            · exact .inl ⟨kept.trans empty, silent, never⟩
            · refine .inr ⟨operation :: later, writing, past, rfl, ?_, silent, since⟩
              have same : result = _ := kept
              rw [same]
              exact writes

end CommandWords
