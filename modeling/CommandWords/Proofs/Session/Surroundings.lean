/-
This file shows that the actions on cells leave alone what does not belong to cells: tables,
interpreters, registries and the ledger.
-/

import CommandWords.Proofs.Session.Consulting
import CommandWords.Proofs.Session.Operation

namespace CommandWords

variable {Data : Type}

namespace State

/-- Nothing changed but objects, cells and the noted calls. -/
structure SameSurroundings (first second : State Data) : Prop where
  tables : second.tables = first.tables
  interpreters : second.interpreters = first.interpreters
  registries : second.registries = first.registries
  ledger : second.ledger = first.ledger

instance : IsPreorder (State Data) SameSurroundings where
  refl _ := ⟨rfl, rfl, rfl, rfl⟩
  trans _ _ _ before after :=
    ⟨after.tables.trans before.tables, after.interpreters.trans before.interpreters,
      after.registries.trans before.registries, after.ledger.trans before.ledger⟩

theorem SameSurroundings.consulting (catalogue : Catalogue Data) :
    Consulting catalogue SameSurroundings where
  noted _ _ _ _ _ _ := ⟨rfl, rfl, rfl, rfl⟩
  object _ _ := ⟨rfl, rfl, rfl, rfl⟩
  text _ _ _ _ _ _ _ := ⟨rfl, rfl, rfl, rfl⟩

theorem sameSurroundings_setObject (state : State Data) (payload : Payload Data)
    (content : Content Data) : state.SameSurroundings (state.setObject payload content) := by
  cases payload <;> exact ⟨rfl, rfl, rfl, rfl⟩

end State

namespace Action

open State (SameSurroundings)

variable {Value : Type}

/-- The action works on cells only. -/
abbrev Inside (action : Action Data Value) : Prop := action.Relates SameSurroundings

theorem inside_make (made : Made Data) : (make made).Inside :=
  relates_make (fun _ _ => ⟨rfl, rfl, rfl, rfl⟩) made

variable (catalogue : Catalogue Data)

theorem inside_callFree (representation : Representation Data) :
    (callFree catalogue representation).Inside := by
  refine relates_state.bind fun _ => ?_
  refine Relates.bind (fun _ => ?_) fun _ => relates_ofResult _
  exact ⟨rfl, rfl, rfl, rfl⟩

theorem inside_callAssign (type : TypeId)
    (assign : View Data → Argument Data → Argument Data → Except Fault (Content Data))
    (target source : Payload Data) : (callAssign type assign target source).Inside := by
  refine relates_state.bind fun _ => ?_
  refine Relates.bind (fun _ => ⟨rfl, rfl, rfl, rfl⟩) fun _ => ?_
  refine (relates_ofResult _).bind fun content => ?_
  exact fun state => state.sameSurroundings_setObject target content

theorem inside_detach (cell : CellRef Data) : (detach catalogue cell).Inside := by
  refine relates_state.bind fun present => ?_
  dsimp only
  split
  · exact relates_pure ()
  · refine Relates.bind (fun _ => ?_) fun _ => inside_callFree catalogue _
    exact ⟨rfl, rfl, rfl, rfl⟩

theorem inside_install (cell : CellRef Data) (type : TypeId) (payload : Payload Data) :
    (install catalogue cell type payload).Inside := by
  refine relates_state.bind fun present => ?_
  split
  · exact inside_callAssign type _ _ payload
  · refine (inside_detach catalogue cell).bind fun _ => ?_
    exact fun _ => ⟨rfl, rfl, rfl, rfl⟩

theorem inside_installMade (cell : CellRef Data) (type : TypeId) (made : Made Data) :
    (installMade catalogue cell type made).Inside :=
  (inside_make made).bind fun _ => inside_install catalogue cell type _

theorem inside_addCell (cell : Cell Data) : (addCell cell).Inside := by
  refine relates_state.bind fun _ => ?_
  refine Relates.bind (fun _ => ?_) fun _ => relates_pure _
  exact ⟨rfl, rfl, rfl, rfl⟩

theorem inside_ofMade (type : TypeId) (made : Made Data) : (ofMade type made).Inside :=
  (inside_make made).bind fun _ => inside_addCell _

theorem inside_freeRepresentation (cell : CellRef Data) :
    (freeRepresentation catalogue cell).Inside := by
  refine relates_state.bind fun present => ?_
  dsimp only
  split
  · exact relates_pure ()
  · refine (relates_text (SameSurroundings.consulting catalogue) cell).bind fun _ => ?_
    exact inside_detach catalogue cell

theorem inside_duplicate (cell : CellRef Data) : (duplicate catalogue cell).Inside := by
  refine relates_state.bind fun present => ?_
  refine Relates.bind ?_ fun _ => inside_addCell _
  cases (present.cells.get cell).representation with
  | none => exact relates_pure none
  | some representation =>
      refine (relates_callDuplicate (SameSurroundings.consulting catalogue) _).bind fun _ => ?_
      exact relates_pure _

theorem inside_dispose (cell : CellRef Data) : (dispose catalogue cell).Inside := by
  refine (inside_detach catalogue cell).bind fun _ => ?_
  exact fun _ => ⟨rfl, rfl, rfl, rfl⟩

theorem inside_convert (registry : Ref Registry) (cell : CellRef Data) (name : String) :
    (convert catalogue registry cell name).Inside := by
  refine relates_state.bind fun present => ?_
  split
  · exact relates_pure _
  · split
    · exact relates_pure _
    · refine (relates_callConvert (SameSurroundings.consulting catalogue) _ cell).bind fun _ => ?_
      split
      · exact relates_pure _
      · refine (inside_make _).bind fun _ => ?_
        exact (inside_install catalogue cell _ _).bind fun _ => relates_pure _

end Action

end CommandWords
