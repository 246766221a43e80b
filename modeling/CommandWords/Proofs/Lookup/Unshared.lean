/-
This file shows that cells do not share their answers. A lookup overwrites the object that its cell
holds, and no other cell sees that.
-/

import CommandWords.Proofs.Lookup.CachedAnswer
import CommandWords.Proofs.Session.Untouched

namespace CommandWords

variable {Data : Type}

/-- What a lookup finds, by a scan or in the cell itself. -/
def Question.found? (question : Question Data) :
    Except Fault (Outcome Number) → Option (CellRef Data × Resolution)
  | .ok (.done index _) => some (question.cell, ⟨question.table, question.stride, index⟩)
  | _ => none

section history

variable (catalogue : Catalogue Data)

/-- The cell of a lookup that succeeds and what it finds. -/
def Step.found? (step : Step Data) : Option (CellRef Data × Resolution) :=
  (step.operation.question? step.before).bind fun question =>
    question.found? ((question.ask catalogue).run step.before).1

/-- What the latest lookup of a cell that succeeded has found. -/
def lastFound : List (Operation Data) → CellRef Data → Option Resolution
  | [] => fun _ => none
  | operation :: earlier =>
      match Step.found? catalogue ⟨session catalogue earlier, operation⟩ with
      | some (cell, resolution) => Function.update (lastFound earlier) cell (some resolution)
      | none => lastFound earlier

/-- The cell gets another representation, loses the one that it has or is disposed of. -/
def Step.Releases (cell : CellRef Data) (step : Step Data) : Prop :=
  step.mark catalogue = .reset cell ∨ step.mark catalogue = .disposed cell

end history

variable {catalogue : Catalogue Data} {cell : CellRef Data}

namespace State

variable {state : State Data}

theorem payload?_of_holds {payload : Payload Data} {resolution : Resolution}
    (holds : state.Holds cell .resolution payload)
    (content : state.content payload = .resolution resolution) :
    state.payload? catalogue cell .resolution = some payload := by
  have owns : (catalogue.describe .resolution).owns (state.content payload) = true := by
    rw [content]
    rfl
  rw [payload?, holds]
  exact if_pos ⟨rfl, owns⟩

/-- The cell holds an object with the resolution, which is the object that it held before. -/
def Rewritten (cell : CellRef Data) (resolution : Resolution) (first second : State Data) : Prop :=
  ∃ reference, second.Holds cell .resolution (.object reference) ∧
    second.objects.get reference = .resolution resolution ∧
      ∀ payload, first.Holds cell .resolution payload → payload = .object reference

theorem Rewritten.of_same {first second third : State Data} {resolution : Resolution}
    (rewritten : first.Rewritten cell resolution second) (same : second.SameMemory third) :
    first.Rewritten cell resolution third := by
  obtain ⟨reference, holds, content, before⟩ := rewritten
  refine ⟨reference, ?_, ?_, before⟩
  · rwa [Holds, same.cells]
  · rwa [same.objects]

end State

namespace Question

/-- A resolution is assigned to the one that the cell holds. Its own object is installed only where
the cell holds none. -/
theorem Installs.rewritten {question : Question Data} {read later : State Data} {position : Nat}
    (owned : read.Owned) (installed : question.Installs catalogue read position (.ok ()) later) :
    read.Rewritten question.cell (question.resolution position) later := by
  let answer := question.resolution position
  rcases installed.written with ⟨target, accepted, same⟩ | ⟨refused, same⟩
  · have held := Action.held_of_payload? accepted
    have holds : read.Holds question.cell .resolution target := held
    obtain ⟨reference, _, rfl, _, _, _⟩ := owned.object holds
    refine State.Rewritten.of_same ⟨reference, ?_, ?_, ?_⟩ same
    · rw [State.Holds, State.cells_setObject]
      exact holds
    · simp [State.setObject]
    · intro payload also
      cases holds.symm.trans also
      rfl
  · refine State.Rewritten.of_same ⟨read.objects.next, ?_, ?_, ?_⟩ same
    · rw [State.Holds, State.get_setRepresentation]
    · exact State.get_addObject_next read _
    · intro payload holds
      obtain ⟨reference, resolution, rfl, old, content, _⟩ := owned.object holds
      have still : (read.addObject (.resolution answer)).content (.object reference) =
          .resolution resolution := (State.get_addObject_old read old _).trans content
      have accepted : (read.addObject (.resolution answer)).payload? catalogue question.cell
          .resolution = some (.object reference) := State.payload?_of_holds holds still
      cases accepted.symm.trans refused

/-- An outcome that is a failure finds nothing. -/
theorem found?_of_isFail (question : Question Data) {outcome : Outcome Number}
    (fails : outcome.isFail = true) : question.found? (.ok outcome) = none := by
  cases outcome with
  | done index effort => cases fails
  | fail failure effort => rfl

/-- A lookup that succeeds leaves its answer in the object that the cell holds. -/
theorem rewritten_ask {question : Question Data} {state : State Data} (owned : state.Owned)
    {resolution : Resolution}
    (found : question.found? ((question.ask catalogue).run state).1 = some (cell, resolution)) :
    state.Rewritten cell resolution ((question.ask catalogue).run state).2 := by
  have asked := question.ask_run catalogue state
  generalize (question.ask catalogue).run state = ended at asked found ⊢
  obtain ⟨ending, later⟩ := ended
  cases asked with
  | hit kept =>
      cases found
      obtain ⟨payload, holds, content⟩ :=
        State.holds_of_resolution? (owned.keptAnswer?_iff.mp kept)
      obtain ⟨reference, _, rfl, _, _, _⟩ := owned.object holds
      refine State.Rewritten.of_same ⟨reference, holds, content, ?_⟩ (state.noteEvent_same _)
      intro payload also
      cases holds.symm.trans also
      rfl
  | malformed unkept unformed => cases found
  | unread unkept ended => cases found
  | refused reads unresolved =>
      rw [question.found?_of_isFail (Scan.isFail_refusal ..)] at found
      cases found
  | settled reads resolved installed =>
      cases found
      obtain ⟨reference, holds, content, before⟩ :=
        installed.rewritten ((State.Frame.of_prepared reads.prepared).owned owned)
      refine State.Rewritten.of_same ⟨reference, holds, content, ?_⟩ (State.noteEvent_same _ _)
      intro payload also
      exact before payload ((reads.prepared.representation question.cell).trans also)
  | lost reads installed => cases found

end Question

theorem Question.found?_of_mark {question : Question Data}
    {ending : Except Fault (Outcome Number)} {resolution : Resolution}
    (marked : question.mark ending = .answered cell resolution) :
    question.found? ending = some (cell, resolution) := by
  unfold mark at marked
  split at marked
  next index effort =>
    split at marked
    next => cases marked
    next =>
      cases marked
      rfl
  next => cases marked

theorem Operation.mark_ne_answered {operation : Operation Data}
    {ending : Except Fault (Answer Data)} {resolution : Resolution} :
    operation.mark ending ≠ .answered cell resolution := by
  intro marked
  unfold mark at marked
  split at marked
  next => cases marked
  next => cases marked
  next => cases marked
  next => cases marked
  next => cases marked
  next => cases marked
  next =>
    split at marked
    next => cases marked
    next => cases marked
  next => cases marked

namespace Step

variable {step : Step Data} {resolution : Resolution}

theorem rewritten (owned : step.before.Owned)
    (found : step.found? catalogue = some (cell, resolution)) :
    step.before.Rewritten cell resolution (step.after catalogue) := by
  obtain ⟨state, operation⟩ := step
  simp only [found?, after] at owned found ⊢
  obtain ⟨question, asks, found⟩ := Option.bind_eq_some_iff.mp found
  have asked := Question.rewritten_ask owned found
  cases operation with
  | lookup question =>
      cases asks
      rwa [Operation.perform, Action.run_map_after]
  | resolve interpreter target table stride label exact =>
      cases asks
      rw [Operation.perform, Action.run_map_after, Action.run_resolve]
      exact asked.of_same (Action.settled_same _ interpreter state)
  | _ => cases asks

theorem found_of_answered (marked : step.mark catalogue = .answered cell resolution) :
    step.found? catalogue = some (cell, resolution) := by
  unfold mark at marked
  unfold found?
  cases asks : step.operation.question? step.before with
  | some question =>
      simp only [asks] at marked
      exact question.found?_of_mark marked
  | none =>
      simp only [asks] at marked
      exact absurd marked Operation.mark_ne_answered

/-- A step without an answer for a cell that does not release it is not about the cell. -/
theorem untargeted (custom : step.operation.InstallsCustom)
    (known : step.before.cells.has cell = true) (unreleased : ¬ step.Releases catalogue cell)
    (unfound : ∀ resolution, step.found? catalogue ≠ some (cell, resolution)) :
    (step.mark catalogue).target? ≠ some cell := by
  intro targeted
  rcases Mark.eq_of_target targeted with born | released | ⟨resolution, answered⟩
  · exact unborn custom known born
  · exact unreleased released
  · exact unfound resolution (found_of_answered answered)

end Step

theorem lastFound_of_found {operation : Operation Data} {earlier : List (Operation Data)}
    {resolution : Resolution}
    (found : Step.found? catalogue ⟨session catalogue earlier, operation⟩ =
      some (cell, resolution)) :
    lastFound catalogue (operation :: earlier) cell = some resolution := by
  simp only [lastFound, found, Function.update_self]

theorem lastFound_of_unfound {operation : Operation Data} {earlier : List (Operation Data)}
    (unfound : ∀ resolution, Step.found? catalogue ⟨session catalogue earlier, operation⟩ ≠
      some (cell, resolution)) :
    lastFound catalogue (operation :: earlier) cell = lastFound catalogue earlier cell := by
  cases found : Step.found? catalogue ⟨session catalogue earlier, operation⟩ with
  | none => simp only [lastFound, found]
  | some answer =>
      obtain ⟨other, resolution⟩ := answer
      have different : cell ≠ other := by
        rintro rfl
        exact unfound resolution found
      simp only [lastFound, found, Function.update_of_ne different]

/-- The cell holds the object, and what is in it is the latest answer. -/
structure HoldsLatest (catalogue : Catalogue Data) (cell : CellRef Data)
    (reference : Ref (Content Data)) (operations : List (Operation Data)) : Prop where
  known : (session catalogue operations).cells.has cell = true
  holds : (session catalogue operations).Holds cell .resolution (.object reference)
  latest : ∃ resolution,
    (session catalogue operations).objects.get reference = .resolution resolution ∧
      lastFound catalogue operations cell = some resolution

/-- A further lookup that succeeds writes into the same object, and another step that does not
release the cell leaves it alone. -/
theorem HoldsLatest.step {operation : Operation Data} {earlier : List (Operation Data)}
    {reference : Ref (Content Data)}
    (honest : Step.Honest catalogue ⟨session catalogue earlier, operation⟩)
    (owned : (session catalogue earlier).Owned)
    (unreleased : ¬ Step.Releases catalogue cell ⟨session catalogue earlier, operation⟩)
    (before : HoldsLatest catalogue cell reference earlier) :
    HoldsLatest catalogue cell reference (operation :: earlier) := by
  let step : Step Data := ⟨session catalogue earlier, operation⟩
  by_cases found : ∃ resolution, step.found? catalogue = some (cell, resolution)
  · obtain ⟨resolution, found⟩ := found
    obtain ⟨object, holds, content, same⟩ := Step.rewritten owned found
    cases same _ before.holds
    exact ⟨Step.has_after before.known, holds, resolution, content, lastFound_of_found found⟩
  · have unfound := not_exists.mp found
    have untargeted : (step.mark catalogue).target? ≠ some cell :=
      Step.untargeted honest.custom before.known unreleased unfound
    have keeps : step.before.KeepsObject cell (step.after catalogue) :=
      Step.keepsObject honest owned untargeted
    obtain ⟨resolution, content, latest⟩ := before.latest
    obtain ⟨holds, same⟩ := keeps _ before.holds
    refine ⟨Step.has_after before.known, holds, resolution, same.trans content, ?_⟩
    rw [lastFound_of_unfound unfound, latest]

theorem HoldsLatest.run {past later : List (Operation Data)} {reference : Ref (Content Data)}
    (honest : Throughout catalogue (Step.Honest catalogue) (later ++ past))
    (unreleased : During catalogue (fun step => ¬ step.Releases catalogue cell) past later)
    (start : HoldsLatest catalogue cell reference past) :
    HoldsLatest catalogue cell reference (later ++ past) := by
  induction later with
  | nil => exact start
  | cons operation earlier inductionHypothesis =>
      obtain ⟨latest, before⟩ := honest
      obtain ⟨kept, unreleased⟩ := unreleased
      exact .step latest (Throughout.remembers before).owned kept
        (inductionHypothesis before unreleased)

end CommandWords
