/-
This file shows that usage errors undo the rewriting of an ensemble: they show the words that the
user typed.
-/

import CommandWords.Proofs.Interpreter.Flags
import CommandWords.Proofs.Number.Counts
import CommandWords.Proofs.Session.Agreement

namespace CommandWords

variable {Data : Type} {catalogue : Catalogue Data}

namespace Dispatch

variable {Word : Type}

/-- The words of an ensemble that are inserted in place of the first words that the user typed. -/
def rewriting (typed : List Word) (removed : Nat) (inserted : List Word) : Dispatch Word :=
  ⟨typed, .natural removed, .natural inserted.length⟩

/-- The words that an ensemble passes on. -/
def rewritten (typed : List Word) (removed : Nat) (inserted : List Word) : List Word :=
  inserted ++ typed.drop removed

theorem undo_rewriting (typed : List Word) (removed : Nat) (inserted words : List Word) :
    (rewriting typed removed inserted).undo words =
      if inserted.length ≤ words.length then
        typed.take removed ++ words.drop inserted.length
      else words := by
  have first : typed.take (min removed typed.length) = typed.take removed :=
    (List.take_eq_take_min ..).symm
  simp only [undo, applies, rewriting, Number.lessThan_natural, Number.position_natural, first,
    Bool.not_eq_true', decide_eq_false_iff_not, Nat.not_lt]
  by_cases present : inserted.length ≤ words.length
  · rw [if_pos present, if_pos present, Nat.min_eq_left present]
  · rw [if_neg present, if_neg present]

variable (typed : List Word) (removed : Nat) (inserted : List Word)

/-- All inserted words are there. -/
theorem undo_first_of_le {count : Nat} (enough : inserted.length ≤ count) :
    (rewriting typed removed inserted).undo ((rewritten typed removed inserted).take count) =
      typed.take (removed + (count - inserted.length)) := by
  have first : (rewritten typed removed inserted).take count =
      inserted ++ (typed.drop removed).take (count - inserted.length) := by
    rw [rewritten, List.take_append, List.take_of_length_le enough]
  have present : inserted.length ≤
      (inserted ++ (typed.drop removed).take (count - inserted.length)).length := by
    rw [List.length_append]
    exact Nat.le_add_right _ _
  rw [first, undo_rewriting, if_pos present, List.drop_left, List.take_add]

/-- Some inserted words are cut off, so the rest of them stands as it is. -/
theorem undo_first_of_lt {count : Nat} (few : count < inserted.length) :
    (rewriting typed removed inserted).undo ((rewritten typed removed inserted).take count) =
      inserted.take count := by
  have first : (rewritten typed removed inserted).take count = inserted.take count :=
    List.take_append_of_le_length (Nat.le_of_lt few)
  have absent : ¬ inserted.length ≤ (inserted.take count).length := by
    rw [List.length_take]
    omega
  rw [first, undo_rewriting, if_neg absent]

theorem undo_rewritten :
    (rewriting typed removed inserted).undo (rewritten typed removed inserted) = typed := by
  have present : inserted.length ≤ (rewritten typed removed inserted).length := by
    rw [rewritten, List.length_append]
    exact Nat.le_add_right _ _
  rw [undo_rewriting, if_pos present, rewritten, List.drop_left, List.take_append_drop]

end Dispatch

namespace Action

variable {Value : Type}

/-- An update before the action is as good as one after it. -/
theorem Overlooks.run_update {action : Action Data Value} (overlooks : action.Overlooks)
    (state : State Data) (interpreter : InterpreterRef Data)
    (update : Interpreter (CellRef Data) → Interpreter (CellRef Data)) :
    action.run (state.updateInterpreter interpreter update) =
      ((action.run state).1, (action.run state).2.updateInterpreter interpreter update) := by
  obtain ⟨interpreters, ledger⟩ := overlooks.kept state
  let updated := (state.updateInterpreter interpreter update).interpreters
  have after : (action.run state).2.beside updated state.ledger =
      (action.run state).2.updateInterpreter interpreter update := by
    simp only [updated, State.updateInterpreter, State.beside, interpreters, ← ledger]
  rw [← after]
  exact overlooks.run_beside state updated state.ledger

variable (catalogue)

/-- Only the words after undoing matter. -/
theorem usageText_congr {words others : List (CellRef Data)} {options : UsageOptions Data}
    {dispatch : Option (Dispatch (CellRef Data))}
    (same : Dispatch.undoAny options.dispatch words = Dispatch.undoAny dispatch others) :
    usageText catalogue words options =
      usageText catalogue others { options with dispatch } := by
  simp only [usageText, same]

theorem firstWords_natural (count : Nat) (words : List (CellRef Data)) :
    firstWords (.natural count) words = words.take count := by
  rw [firstWords, Number.lessThan_zero_natural, if_neg Bool.false_ne_true,
    Number.position_natural]
  exact (List.take_eq_take_min ..).symm

variable (interpreter : InterpreterRef Data)

/-- There is no dispatch during the body, and the old one is back afterwards. -/
def withoutDispatch (body : Action Data Value) : Action Data Value := do
  let current ← interpreterState interpreter
  setDispatch interpreter none
  body.ensuring fun later => later.setDispatch interpreter current.dispatch

/-- A text that was worded without a look at the interpreter is written beside any dispatch. -/
theorem Overlooks.run_write {wording : Action Data String} (overlooks : wording.Overlooks)
    (state : State Data) (dispatch restored : Option (Dispatch (CellRef Data))) :
    let ended := (wording >>= writeResult interpreter).run (state.setDispatch interpreter dispatch)
    let plain := (wording >>= writeResult interpreter).run state
    (ended.1, ended.2.setDispatch interpreter restored) =
      (plain.1, plain.2.setDispatch interpreter restored) := by
  simp only [State.setDispatch, run_bind, overlooks.run_update state interpreter]
  cases wording.run state with
  | mk ending changed =>
      cases ending with
      | ok text =>
          simp only [writeResult, run_change, State.updateInterpreter_twice]
          rfl
      | error fault =>
          simp only [State.updateInterpreter_twice]
          rfl

/-- The dispatch matters to the wording of a report only. -/
theorem run_reportUsage_dispatch (count : Number) (words : List (CellRef Data))
    (message : Option String) (state : State Data)
    (dispatch restored : Option (Dispatch (CellRef Data))) :
    let ended := (reportUsage catalogue interpreter count words message).run
      (state.setDispatch interpreter dispatch)
    let wording := usageText catalogue (firstWords count words)
      { state.usageOptions interpreter message with dispatch }
    let plain := (wording >>= writeResult interpreter).run state
    (ended.1, ended.2.setDispatch interpreter restored) =
      (plain.1, plain.2.setDispatch interpreter restored) := by
  rw [run_reportUsage, State.usageOptions_setDispatch]
  have overlooks : (usageText catalogue (firstWords count words)
      { state.usageOptions interpreter message with dispatch }).Overlooks :=
    fun _ => agrees_usageText catalogue _ _
  exact overlooks.run_write interpreter state dispatch restored

/-- Wherever a dispatch is undone, the report is that of the words without a dispatch. -/
theorem withDispatch_reportUsage {dispatch : Dispatch (CellRef Data)} {count plainCount : Number}
    {words plainWords : List (CellRef Data)}
    (same : dispatch.undo (firstWords count words) = firstWords plainCount plainWords)
    (message : Option String) :
    withDispatch interpreter dispatch (reportUsage catalogue interpreter count words message) =
      withoutDispatch interpreter
        (reportUsage catalogue interpreter plainCount plainWords message) := by
  funext state
  let options := state.usageOptions interpreter message
  let restored := (state.interpreters.get interpreter).dispatch
  -- Both reports are worded alike, and the flag that differs is overwritten in the end.
  have worded : usageText catalogue (firstWords count words)
      { options with dispatch := some dispatch } =
        usageText catalogue (firstWords plainCount plainWords) { options with dispatch := none } :=
    usageText_congr catalogue same
  have inside := run_reportUsage_dispatch catalogue interpreter count words message state
    (some dispatch) restored
  have outside := run_reportUsage_dispatch catalogue interpreter plainCount plainWords message
    state none restored
  dsimp only at inside
  rw [worded] at inside
  exact inside.trans outside.symm

end Action

/-- A command that was rewritten is reported as the user typed it, as long as the inserted words
are there. Otherwise the words that are left of them are reported. -/
theorem usage_undoes_rewriting (typed : List (CellRef Data)) (removed : Nat)
    (inserted : List (CellRef Data)) :
    let rewriting := Dispatch.rewriting typed removed inserted
    let words := Dispatch.rewritten typed removed inserted
    (∀ message previous literalFirstWord,
      Action.usageText catalogue words ⟨message, some rewriting, previous, literalFirstWord⟩ =
        Action.usageText catalogue typed ⟨message, none, previous, literalFirstWord⟩) ∧
      ∀ (count : Nat) interpreter message,
        Action.withDispatch interpreter rewriting
            (Action.reportUsage catalogue interpreter (.natural count) words message) =
          Action.withoutDispatch interpreter
            (if inserted.length ≤ count then
              Action.reportUsage catalogue interpreter
                (.natural (removed + (count - inserted.length))) typed message
            else Action.reportUsage catalogue interpreter (.natural count) inserted message) := by
  intro rewriting words
  constructor
  · intro message previous literalFirstWord
    exact Action.usageText_congr catalogue (Dispatch.undo_rewritten typed removed inserted)
  · intro count interpreter message
    split
    next enough =>
      apply Action.withDispatch_reportUsage
      rw [Action.firstWords_natural, Action.firstWords_natural]
      exact Dispatch.undo_first_of_le typed removed inserted enough
    next few =>
      apply Action.withDispatch_reportUsage
      rw [Action.firstWords_natural, Action.firstWords_natural]
      exact Dispatch.undo_first_of_lt typed removed inserted (Nat.lt_of_not_le few)

end CommandWords
