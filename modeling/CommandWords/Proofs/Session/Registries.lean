/-
This file follows the registries of a run. A registry holds what came of the attempts to register a
type in it, whatever else the run does.
-/

import CommandWords.Proofs.Session.Surroundings

namespace CommandWords

variable {Data : Type} {catalogue : Catalogue Data}

namespace State

def SameRegistries (first second : State Data) : Prop := second.registries = first.registries

instance : IsPreorder (State Data) SameRegistries where
  refl _ := rfl
  trans _ _ _ before after := Eq.trans after before

theorem SameRegistries.consulting : Consulting catalogue SameRegistries where
  noted _ _ _ _ _ _ := rfl
  object _ _ := rfl
  text _ _ _ _ _ _ _ := rfl

end State

namespace Action

open State (SameRegistries)

variable {Value : Type}

theorem Inside.registries {action : Action Data Value} (inside : action.Inside) :
    action.Relates SameRegistries :=
  fun state => (inside state).registries

theorem sameRegistries_record (event : Ledger.Event) :
    (record event : Action Data Unit).Relates SameRegistries := fun _ => rfl

theorem sameRegistries_ask (question : Question Data) :
    (question.ask catalogue).Relates SameRegistries := by
  refine relates_state.bind fun present => ?_
  split
  · exact (sameRegistries_record _).bind fun _ => relates_pure _
  · split
    · exact relates_pure _
    · refine (relates_text SameRegistries.consulting _).bind fun key => ?_
      unfold settleScan
      dsimp only
      split
      · exact (sameRegistries_record _).bind fun _ => relates_pure _
      · refine (Inside.registries (inside_make _)).bind fun payload => ?_
        refine (Inside.registries (inside_install catalogue _ _ payload)).bind fun _ => ?_
        exact (sameRegistries_record _).bind fun _ => relates_pure _

/-- A type is registered in one registry, or refused in place. -/
theorem run_register (catalogue : Catalogue Data) (reference : Ref Registry) (type : TypeId)
    (state : State Data) :
    (register catalogue reference type).run state =
      match (state.registries.get reference).register catalogue type with
      | .ok extended =>
          (.ok (), { state with registries := state.registries.set reference extended })
      | .error fault => (.error fault, state) := by
  unfold register
  rw [run_bind_ok (run_state state), run_bind, run_ofResult]
  cases (state.registries.get reference).register catalogue type with
  | ok extended => rfl
  | error fault => rfl

end Action

namespace Registry

/-- The registry after an attempt to register a type. A refused attempt leaves it. -/
def attempt (catalogue : Catalogue Data) (registry : Registry) (type : TypeId) : Registry :=
  match registry.register catalogue type with
  | .ok extended => extended
  | .error _ => registry

end Registry

namespace Step

variable (catalogue) (step : Step Data)

/-- The registries that an operation leaves. -/
theorem registries_after :
    (step.after catalogue).registries =
      match step.operation with
      | .addRegistry registry => step.before.registries.add registry
      | .register reference type =>
          step.before.registries.set reference
            ((step.before.registries.get reference).attempt catalogue type)
      | _ => step.before.registries := by
  obtain ⟨before, operation⟩ := step
  have kept {Value : Type} {action : Action Data Value}
      (relates : action.Relates State.SameRegistries) (function : Value → Answer Data) :
      ((function <$> action).run before).2.registries = before.registries :=
    relates.map function before
  have consulting : State.Consulting catalogue State.SameRegistries :=
    State.SameRegistries.consulting
  cases operation with
  | addTable table => rfl
  | changeTable reference table => rfl
  | ofText text => rfl
  | ofPayload type made => exact kept (Action.Inside.registries (Action.inside_ofMade type made)) _
  | readText cell => exact kept (Action.relates_text consulting cell) _
  | invalidateText cell => exact kept (Action.relates_invalidateText cell fun _ => rfl) _
  | install cell type made =>
      exact kept (Action.Inside.registries (Action.inside_installMade catalogue cell type made)) _
  | freeRepresentation cell =>
      exact kept (Action.Inside.registries (Action.inside_freeRepresentation catalogue cell)) _
  | duplicate cell =>
      exact kept (Action.Inside.registries (Action.inside_duplicate catalogue cell)) _
  | dispose cell => exact kept (Action.Inside.registries (Action.inside_dispose catalogue cell)) _
  | lookup question => exact kept (Action.sameRegistries_ask question) _
  | addRegistry registry => rfl
  | register reference type =>
      rw [Step.after, Operation.perform, Action.run_map_after, Action.run_register]
      dsimp only
      unfold Registry.attempt
      cases (before.registries.get reference).register catalogue type with
      | ok extended => rfl
      | error fault => exact (before.registries.set_get reference).symm
  | convert registry cell name =>
      exact kept (Action.Inside.registries (Action.inside_convert catalogue registry cell name)) _
  | showWord mayQuote cell => exact kept (Action.relates_showWord consulting mayQuote cell) _
  | usageText words options => exact kept (Action.relates_usageText consulting words options) _
  | addInterpreter configuration => rfl
  | writeResult interpreter result => rfl
  | setAlternate interpreter alternate => rfl
  | setDispatch interpreter dispatch => rfl
  | resolve interpreter cell table stride label exact =>
      refine kept ?_ _
      refine Action.relates_state.bind fun present => ?_
      refine (Action.sameRegistries_ask ⟨cell, table, stride, label, _⟩).bind fun outcome => ?_
      exact Action.relates_settle (fun _ _ _ => rfl) interpreter outcome
  | reportUsage interpreter count words message =>
      exact kept (Action.relates_shownReport (Action.relates_showWord consulting)
        (fun _ _ _ => rfl) interpreter count words message) _
  | configureLedger limit enabled => rfl
  | logEvent event => rfl
  | clearLedger => rfl

end Step

/-- The types that a run tried to register in a registry, in the order of the attempts. -/
def attempts (reference : Ref Registry) : List (Operation Data) → List TypeId
  | [] => []
  | .register target type :: earlier =>
      if target = reference then attempts reference earlier ++ [type]
      else attempts reference earlier
  | _ :: earlier => attempts reference earlier

/-- A registry that exists changes with the attempts to register a type in it. -/
theorem session_registry {reference : Ref Registry} {past : List (Operation Data)}
    (exist : (session catalogue past).registries.has reference = true)
    (later : List (Operation Data)) :
    let registries := (session catalogue (later ++ past)).registries
    registries.has reference = true ∧
      registries.get reference =
        (attempts reference later).foldl (Registry.attempt catalogue)
          ((session catalogue past).registries.get reference) := by
  induction later with
  | nil => exact ⟨exist, rfl⟩
  | cons operation later inductionHypothesis =>
      obtain ⟨still, present⟩ := inductionHypothesis
      have after := Step.registries_after catalogue ⟨session catalogue (later ++ past), operation⟩
      rw [List.cons_append, session, after]
      cases operation with
      | addRegistry registry =>
          exact ⟨Store.has_add still registry, (Store.get_add_of_has still registry).trans present⟩
      | register target type =>
          refine ⟨still, ?_⟩
          dsimp only
          rw [attempts]
          by_cases same : target = reference
          · subst same
            rw [if_pos rfl, Store.get_set_self, List.foldl_append, ← present]
            rfl
          · rw [if_neg same, Store.get_set_other _ (Ne.symm same), present]
      | _ => exact ⟨still, present⟩

end CommandWords
