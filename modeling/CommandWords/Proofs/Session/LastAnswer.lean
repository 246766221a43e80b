/-
This file shows that the history of a cell alone decides whether a lookup is answered by the cell
itself.
-/

import CommandWords.Proofs.Session.Ownership

namespace CommandWords

variable {Data : Type} {catalogue : Catalogue Data}

/-- Resolutions come to cells from lookups and copies alone. A custom type may be handed the objects
of resolutions too, but no write of it into such an object gives another cell a resolution. -/
structure Step.Honest (catalogue : Catalogue Data) (step : Step Data) : Prop where
  custom : step.operation.InstallsCustom
  /-- A step that hands out a custom payload gives no cell a resolution that it did not have. -/
  comes : ¬ step.operation.Plain → ∀ {cell resolution},
    (step.after catalogue).resolution? catalogue cell = some resolution →
      step.before.resolution? catalogue cell = some resolution
  /-- No write turns the object of a resolution into another kind of object. -/
  lasting : ¬ step.operation.Plain → ∀ {cell payload},
    (step.after catalogue).Holds cell .resolution payload →
      (step.after catalogue).resolution? catalogue cell ≠ none

section marks

variable {answers : CellRef Data → Option Resolution} {cell target : CellRef Data}
  {resolution : Resolution}

theorem of_update_none (found : Function.update answers target none cell = some resolution) :
    answers cell = some resolution := by
  by_cases same : cell = target
  · rw [same, Function.update_self] at found
    cases found
  · rwa [Function.update_of_ne same] at found

theorem Operation.plain_of_question? {operation : Operation Data} {state : State Data}
    {question : Question Data} (asks : operation.question? state = some question) :
    operation.Plain := by
  cases operation with
  | lookup asked => trivial
  | resolve interpreter asked table stride label exact => trivial
  | _ => cases asks

theorem Operation.of_carryAnswers {operation : Operation Data} (installs : ¬ operation.Plain)
    {ending : Except Fault (Answer Data)}
    (found : (operation.mark ending).carryAnswers answers cell = some resolution) :
    answers cell = some resolution := by
  unfold mark at found
  split at found
  next => exact absurd trivial installs
  next => exact of_update_none found
  next => exact of_update_none found
  next => exact absurd trivial installs
  next => exact absurd trivial installs
  next => exact absurd trivial installs
  next =>
    split at found
    next => exact found
    next => exact of_update_none found
  next => exact found

/-- A step that hands out a payload marks no cell with an answer that it did not have. -/
theorem Step.of_carryAnswers {step : Step Data} (installs : ¬ step.operation.Plain)
    (found : (step.mark catalogue).carryAnswers answers cell = some resolution) :
    answers cell = some resolution := by
  unfold mark at found
  cases asks : step.operation.question? step.before with
  | some question => exact absurd (Operation.plain_of_question? asks) installs
  | none =>
      simp only [asks] at found
      exact Operation.of_carryAnswers installs found

end marks

namespace Step

variable {step : Step Data}

/-- An honest step leaves the objects of resolutions as they are where a custom type writes. -/
theorem Honest.safeWrites (honest : step.Honest catalogue) (owned : step.before.Owned) :
    step.before.SafeWrites catalogue step.operation (step.after catalogue) := by
  rintro prepared committed prepares same ⟨installs, _, _, target, content, _, _, rfl⟩ cell payload
    holds
  have after : (step.after catalogue).Holds cell .resolution payload := by
    rw [State.Holds, same.cells, State.cells_setObject]
    exact holds
  obtain ⟨resolution, kept⟩ := Option.ne_none_iff_exists'.mp (honest.lasting installs after)
  have there : step.before.resolution? catalogue cell = some resolution :=
    honest.comes installs kept
  have here : prepared.resolution? catalogue cell = some resolution := by
    rw [(State.Frame.of_prepared prepares).resolution? owned (prepares.representation cell), there]
  rw [State.content_of_holds holds here, ← same.content, State.content_of_holds after kept]

theorem Honest.marked (honest : step.Honest catalogue) (owned : step.before.Owned) :
    State.Marked catalogue step.before (step.mark catalogue) (step.after catalogue) :=
  (step.effect catalogue honest.custom).marked owned (honest.safeWrites owned)

theorem honest_of_safeWrites (custom : step.operation.InstallsCustom) (owned : step.before.Owned)
    (safe : step.before.SafeWrites catalogue step.operation (step.after catalogue)) :
    step.Honest catalogue := by
  have marked := (step.effect catalogue custom).marked owned safe
  refine ⟨custom, ?_, ?_⟩
  · intro installs cell resolution kept
    rw [marked.answers] at kept
    exact of_carryAnswers installs kept
  · intro _ cell payload holds
    obtain ⟨resolution, kept⟩ := marked.owned.exists_resolution holds
    rw [kept]
    simp

end Step

/-- What holds of the state after every honest run. -/
structure Remembers (catalogue : Catalogue Data) (operations : List (Operation Data)) : Prop where
  owned : (session catalogue operations).Owned
  answers : (session catalogue operations).resolution? catalogue = lastAnswer catalogue operations

theorem State.owned_initial : (State.initial : State Data).Owned := by
  constructor
  · intro cell payload holds
    cases holds
  · intro first second payload holds
    cases holds

theorem Operation.Plain.installsCustom {operation : Operation Data} (plain : operation.Plain) :
    operation.InstallsCustom := by
  cases operation with
  | ofPayload type made => cases plain
  | install cell type made => cases plain
  | _ => trivial

namespace Throughout

variable {operations : List (Operation Data)}

/-- Every cell keeps exactly the answer that its history leaves. -/
theorem remembers (honest : Throughout catalogue (Step.Honest catalogue) operations) :
    Remembers catalogue operations := by
  induction operations with
  | nil =>
      refine ⟨State.owned_initial, ?_⟩
      funext cell
      rfl
  | cons operation earlier inductionHypothesis =>
      obtain ⟨latest, before⟩ := honest
      have remembered := inductionHypothesis before
      have marked : State.Marked catalogue (session catalogue earlier) _ _ :=
        latest.marked remembered.owned
      refine ⟨marked.owned, ?_⟩
      rw [lastAnswer, ← remembered.answers]
      exact marked.answers

/-- Honesty is needed. A custom type that has the objects of two cells here writes the answer of the
second one into the first, which no lookup of that cell has found. -/
example :
    let copying : ValueType Unit :=
      { Catalogue.inert.custom 0 with
        owns := fun _ => true
        assign? := some fun _ _ source => .ok source.content }
    let catalogue : Catalogue Unit := ⟨fun _ => copying⟩
    let operations : List (Operation Unit) :=
      [.install ⟨2⟩ (.custom 0) (.existing (.object ⟨1⟩)),
        .install ⟨2⟩ (.custom 0) (.existing (.object ⟨0⟩)), .ofText "",
        .lookup ⟨⟨1⟩, ⟨0⟩, 1, "option", false⟩, .lookup ⟨⟨0⟩, ⟨0⟩, 1, "option", false⟩,
        .ofText "sto", .ofText "sta", .addTable (.ofKeywords ["start", "stop"])]
    (session catalogue operations).resolution? catalogue ⟨0⟩ = some ⟨⟨0⟩, 1, 1⟩ ∧
      lastAnswer catalogue operations ⟨0⟩ = some ⟨⟨0⟩, 1, 0⟩ := by
  decide +kernel

/-- A run is honest if whatever custom types write spares the resolutions. -/
theorem honest_of_safeWrites (custom : ∀ operation ∈ operations, operation.InstallsCustom)
    (safe : ∀ operation ∈ operations, ∀ before after : State Data,
      before.SafeWrites catalogue operation after) :
    Throughout catalogue (Step.Honest catalogue) operations := by
  induction operations with
  | nil => trivial
  | cons operation earlier inductionHypothesis =>
      have before := inductionHypothesis
        (fun other member => custom other (List.mem_cons_of_mem _ member))
        (fun other member => safe other (List.mem_cons_of_mem _ member))
      exact ⟨Step.honest_of_safeWrites (custom operation List.mem_cons_self)
        (remembers before).owned (safe operation List.mem_cons_self _ _), before⟩

/-- A run that installs no payloads of custom types is honest. -/
theorem honest_of_plain (plain : ∀ operation ∈ operations, operation.Plain) :
    Throughout catalogue (Step.Honest catalogue) operations := by
  refine honest_of_safeWrites (fun operation member => (plain operation member).installsCustom)
    fun operation member before after => ?_
  rintro prepared committed _ _ ⟨installs, _⟩
  exact absurd (plain operation member) installs

end Throughout

end CommandWords
