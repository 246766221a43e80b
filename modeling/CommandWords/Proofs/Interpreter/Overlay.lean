/-
This file puts the flags of open scopes into interpreters, and compares the flags of two stores of
interpreters.
-/

import CommandWords.Proofs.Interpreter.Script
import CommandWords.Proofs.Session.Agreement

namespace CommandWords

variable {Data : Type}

namespace Scope

variable {scopes : List (Scope Data)} {interpreters : Store (Interpreter (CellRef Data))}

/-- The interpreters with the flags that the open scopes set. -/
def overlay (scopes : List (Scope Data)) (interpreters : Store (Interpreter (CellRef Data))) :
    Store (Interpreter (CellRef Data)) where
  size := interpreters.size
  get interpreter :=
    { interpreters.get interpreter with
      alternate := alternateWithin scopes interpreters interpreter
      dispatch := dispatchWithin scopes interpreters interpreter }

/-- A new interpreter is beside all open scopes. -/
theorem overlay_add (apart : ∀ scope ∈ scopes, scope.interpreter ≠ interpreters.next)
    (entry : Interpreter (CellRef Data)) :
    overlay scopes (interpreters.add entry) = (overlay scopes interpreters).add entry := by
  have undispatched : scopes.findSome? (dispatch? interpreters.next) = none := by
    rw [List.findSome?_eq_none_iff]
    intro scope member
    cases scope with
    | dispatch other applied => exact if_neg (apart _ member)
    | alternate other => rfl
  have unalternate : scopes.any (isAlternate interpreters.next) = false := by
    rw [List.any_eq_false]
    intro scope member
    cases scope with
    | dispatch other applied => exact Bool.false_ne_true
    | alternate other => simpa [isAlternate, interpreter] using apart _ member
  refine Store.eq_of_get rfl fun other => ?_
  by_cases new : other = interpreters.next
  · subst new
    have next : (overlay scopes interpreters).next = interpreters.next := rfl
    rw [← next, Store.get_add_next, next]
    simp [overlay, alternateWithin, dispatchWithin, undispatched, unalternate]
  · have behind : other ≠ (overlay scopes interpreters).next := new
    rw [Store.get_add_other _ behind]
    simp [overlay, alternateWithin, dispatchWithin, Store.get_add_other _ new]

theorem overlay_written (interpreter : InterpreterRef Data) (result : String) :
    overlay scopes
        (interpreters.set interpreter { interpreters.get interpreter with result }) =
      (overlay scopes interpreters).set interpreter
        { (overlay scopes interpreters).get interpreter with result } := by
  refine Store.eq_of_get rfl fun other => ?_
  by_cases same : other = interpreter
  · subst same
    simp [overlay, alternateWithin, dispatchWithin]
  · simp [overlay, alternateWithin, dispatchWithin, Store.get_set_other _ same]

/-- A scope for a dispatch is the dispatch put into the interpreter. -/
theorem overlay_dispatch (interpreter : InterpreterRef Data)
    (applied : Dispatch (CellRef Data)) :
    (overlay scopes interpreters).set interpreter
        { (overlay scopes interpreters).get interpreter with dispatch := some applied } =
      overlay (.dispatch interpreter applied :: scopes) interpreters := by
  refine Store.eq_of_get rfl fun other => ?_
  by_cases same : other = interpreter
  · subst same
    simp [overlay, alternateWithin, dispatchWithin, dispatch?, isAlternate, List.findSome?_cons]
  · have apart : ¬ interpreter = other := fun equal => same equal.symm
    simp [overlay, alternateWithin, dispatchWithin, dispatch?, isAlternate, apart,
      List.findSome?_cons, Store.get_set_other _ same]

theorem overlay_alternate (interpreter : InterpreterRef Data) :
    (overlay scopes interpreters).set interpreter
        { (overlay scopes interpreters).get interpreter with alternate := true } =
      overlay (.alternate interpreter :: scopes) interpreters := by
  refine Store.eq_of_get rfl fun other => ?_
  by_cases same : other = interpreter
  · subst same
    simp [overlay, alternateWithin, dispatchWithin, dispatch?, isAlternate, List.findSome?_cons]
  · have apart : ¬ interpreter = other := fun equal => same equal.symm
    simp [overlay, alternateWithin, dispatchWithin, dispatch?, isAlternate, apart,
      List.findSome?_cons, Store.get_set_other _ same]

/-- The dispatch at the start closes the scope again. -/
theorem overlay_undispatch (interpreter : InterpreterRef Data)
    (applied : Dispatch (CellRef Data)) :
    (overlay (.dispatch interpreter applied :: scopes) interpreters).set interpreter
        { (overlay (.dispatch interpreter applied :: scopes) interpreters).get interpreter with
          dispatch := dispatchWithin scopes interpreters interpreter } =
      overlay scopes interpreters := by
  rw [← overlay_dispatch, Store.set_set, Store.get_set_self]
  exact Store.set_get (overlay scopes interpreters) interpreter

theorem overlay_unalternate (interpreter : InterpreterRef Data) :
    (overlay (.alternate interpreter :: scopes) interpreters).set interpreter
        { (overlay (.alternate interpreter :: scopes) interpreters).get interpreter with
          alternate := alternateWithin scopes interpreters interpreter } =
      overlay scopes interpreters := by
  rw [← overlay_alternate, Store.set_set, Store.get_set_self]
  exact Store.set_get (overlay scopes interpreters) interpreter

end Scope

/-- The interpreters of the first store exist in the second one and have the same flags. -/
structure SameFlags (first second : Store (Interpreter (CellRef Data))) : Prop where
  has : ∀ interpreter, first.has interpreter → second.has interpreter
  alternate : ∀ interpreter, first.has interpreter →
    (second.get interpreter).alternate = (first.get interpreter).alternate
  dispatch : ∀ interpreter, first.has interpreter →
    (second.get interpreter).dispatch = (first.get interpreter).dispatch

namespace SameFlags

variable {start interpreters : Store (Interpreter (CellRef Data))}

theorem refl (start : Store (Interpreter (CellRef Data))) : SameFlags start start :=
  ⟨fun _ exist => exist, fun _ _ => rfl, fun _ _ => rfl⟩

theorem ne_next (same : SameFlags start interpreters) {interpreter : InterpreterRef Data}
    (exist : start.has interpreter) : interpreter ≠ interpreters.next :=
  Store.ne_next_of_has (same.has _ exist)

theorem dispatchWithin (same : SameFlags start interpreters)
    {interpreter : InterpreterRef Data} (exist : start.has interpreter)
    (scopes : List (Scope Data)) :
    Scope.dispatchWithin scopes interpreters interpreter =
      Scope.dispatchWithin scopes start interpreter := by
  rw [Scope.dispatchWithin, Scope.dispatchWithin, same.dispatch interpreter exist]

theorem alternateWithin (same : SameFlags start interpreters)
    {interpreter : InterpreterRef Data} (exist : start.has interpreter)
    (scopes : List (Scope Data)) :
    Scope.alternateWithin scopes interpreters interpreter =
      Scope.alternateWithin scopes start interpreter := by
  rw [Scope.alternateWithin, Scope.alternateWithin, same.alternate interpreter exist]

theorem written (same : SameFlags start interpreters) (interpreter : InterpreterRef Data)
    (result : String) :
    SameFlags start
      (interpreters.set interpreter { interpreters.get interpreter with result }) := by
  have entries : ∀ other : InterpreterRef Data,
      let entry := (interpreters.set interpreter
        { interpreters.get interpreter with result }).get other
      entry.alternate = (interpreters.get other).alternate ∧
        entry.dispatch = (interpreters.get other).dispatch := by
    intro other
    by_cases equal : other = interpreter
    · subst equal
      simp
    · simp [Store.get_set_other _ equal]
  exact ⟨same.has, fun other exist => (entries other).1.trans (same.alternate other exist),
    fun other exist => (entries other).2.trans (same.dispatch other exist)⟩

theorem add (same : SameFlags start interpreters) (entry : Interpreter (CellRef Data)) :
    SameFlags start (interpreters.add entry) := by
  have old : ∀ interpreter : InterpreterRef Data, start.has interpreter →
      (interpreters.add entry).get interpreter = interpreters.get interpreter :=
    fun interpreter exist => Store.get_add_of_has (same.has interpreter exist) entry
  constructor
  · intro interpreter exist
    exact Store.has_add (same.has interpreter exist) entry
  · intro interpreter exist
    rw [old interpreter exist, same.alternate interpreter exist]
  · intro interpreter exist
    rw [old interpreter exist, same.dispatch interpreter exist]

end SameFlags

/-- The second interpreters have the flags of the open scopes, and the first ones those of the
start. -/
def Pairing.within (start : Store (Interpreter (CellRef Data))) (scopes : List (Scope Data)) :
    Pairing Data where
  interpreters first second := second = Scope.overlay scopes first ∧ SameFlags start first
  ledgers first second := second = first

namespace Pairing

variable {start : Store (Interpreter (CellRef Data))} {scopes : List (Scope Data)}

theorem records_within : (within start scopes).Records := by
  rintro first second event rfl
  rfl

theorem reports_within : (within start scopes).Reports where
  configured interpreter := by
    rintro ⟨rfl, same⟩
    rfl
  written interpreter result := by
    rintro ⟨rfl, same⟩
    exact ⟨(Scope.overlay_written interpreter result).symm, same.written interpreter result⟩

end Pairing

end CommandWords
