/-
This file shows that a conversion is all or nothing. It fails and leaves the representation of its
cell alone, or it gives the cell the wanted type, and then a further conversion has nothing to do.
-/

import CommandWords.Proofs.Session.Ownership
import CommandWords.Proofs.Session.Surroundings

namespace CommandWords

variable {Data : Type}

namespace State

variable {catalogue : Catalogue Data} {state later : State Data} {cell : CellRef Data}
  {type : TypeId}

/-- The cell holds a payload of this very type, and the type accepts it. -/
def Fits (state : State Data) (catalogue : Catalogue Data) (cell : CellRef Data)
    (type : TypeId) : Prop :=
  ∃ payload, state.Holds cell type payload ∧
    (catalogue.describe type).owns (state.content payload) = true

theorem owned_of_payload? {payload : Payload Data}
    (accepted : state.payload? catalogue cell type = some payload) :
    (catalogue.describe type).owns (state.content payload) = true := by
  have held := Action.held_of_payload? accepted
  unfold payload? at accepted
  simp only [held, Option.ite_none_right_eq_some] at accepted
  exact accepted.1.2

theorem fits_iff_payload? :
    state.Fits catalogue cell type ↔ ∃ payload, state.payload? catalogue cell type = some payload := by
  constructor
  · rintro ⟨payload, held, owned⟩
    refine ⟨payload, ?_⟩
    unfold payload?
    rw [show (state.cells.get cell).representation = some ⟨type, payload⟩ from held]
    simp [owned]
  · rintro ⟨payload, accepted⟩
    exact ⟨payload, Action.held_of_payload? accepted, owned_of_payload? accepted⟩

theorem isCompatible_iff_fits :
    state.isCompatible catalogue cell type (fun _ => true) = true ↔
      state.Fits catalogue cell type := by
  rw [fits_iff_payload?, isCompatible]
  cases state.payload? catalogue cell type <;> simp

/-- The content of a payload before it is made. -/
def contentOf (state : State Data) : Made Data → Content Data
  | .object content => content
  | .existing payload => state.content payload

/-- The memory stays, but for a missing text that the type of the cell regenerated. -/
inductive Consulted (catalogue : Catalogue Data) (cell : CellRef Data) (state : State Data) :
    State Data → Prop
  | same {later : State Data} (same : state.SameMemory later) : Consulted catalogue cell state later
  | regenerated {representation : Representation Data} {text : String} {later : State Data}
      (missing : (state.cells.get cell).text = none)
      (held : (state.cells.get cell).representation = some representation)
      (made : state.Regenerates catalogue representation text)
      (same : (state.setText cell (some text)).SameMemory later) :
      Consulted catalogue cell state later

namespace Consulted

theorem objects (consulted : state.Consulted catalogue cell later) :
    later.objects = state.objects := by
  cases consulted with
  | same same => exact same.objects
  | regenerated missing held made same => exact same.objects

theorem representation (consulted : state.Consulted catalogue cell later) (other : CellRef Data) :
    (later.cells.get other).representation = (state.cells.get other).representation := by
  cases consulted with
  | same same => rw [same.cells]
  | regenerated missing held made same => rw [same.cells, representation_setText]

theorem contentOf (consulted : state.Consulted catalogue cell later) (made : Made Data) :
    later.contentOf made = state.contentOf made := by
  cases made with
  | object content => rfl
  | existing payload => exact content_of_objects consulted.objects payload

/-- A call that is noted first makes no difference. -/
theorem of_noted {hook : Hook} {arguments : List (Argument Data)}
    (consulted : (state.noted type hook arguments).Consulted catalogue cell later) :
    state.Consulted catalogue cell later := by
  cases consulted with
  | same same => exact .same ⟨same.tables, same.objects, same.cells⟩
  | regenerated missing held made same =>
      exact .regenerated missing held made ⟨same.tables, same.objects, same.cells⟩

end Consulted

end State

namespace Action

variable {catalogue : Catalogue Data} {cell : CellRef Data} {type : TypeId}
  {payload : Payload Data} {state later : State Data}

theorem TextRun.consulted {ending : Except Fault String}
    (read : TextRun catalogue cell state ending later) :
    state.Consulted catalogue cell later := by
  cases read with
  | stored found => exact .same (.refl state)
  | formless missing bare => exact .same (.refl state)
  | regenerated missing held made same => exact .regenerated missing held made same
  | refused missing held failed same => exact .same same

/-- The hook that converts a cell may have its text read, and that is all. -/
theorem consulted_callConvert (state : State Data) :
    state.Consulted catalogue cell
      ((callConvert catalogue type (text catalogue cell)).run state).2 := by
  have noted : (noteCall type .convert []).run state =
    (.ok (state.noted type .convert []).view, state.noted type .convert []) := rfl
  unfold callConvert
  rw [run_bind_ok noted]
  split
  · exact .same (state.noted_same type .convert [])
  · apply State.Consulted.of_noted
    have read := (text_run catalogue cell (state.noted type .convert [])).consulted
    rw [run_bind]
    split
    next ended =>
      rw [ended] at read
      exact read
    next ended =>
      rw [ended] at read
      exact read

end Action

namespace State

/-- No hook fails that a conversion of the cell to the type may call. -/
structure Unfailing (state : State Data) (catalogue : Catalogue Data) (cell : CellRef Data)
    (type : TypeId) : Prop where
  convert : ∀ fault read,
    (Action.callConvert catalogue type (Action.text catalogue cell)).run state ≠
      (.error fault, read)
  free : ∀ representation, (state.cells.get cell).representation = some representation →
    ∀ view argument fault,
      (catalogue.describe representation.type).free view argument ≠ .error fault
  assign : ∀ assign, (catalogue.describe type).assign? = some assign →
    ∀ view target source fault, assign view target source ≠ .error fault

/-- The type accepts what it makes of the cell, and whatever its assign hook leaves behind. -/
structure Accepting (state : State Data) (catalogue : Catalogue Data) (cell : CellRef Data)
    (type : TypeId) : Prop where
  made : ∀ made effort read,
    (Action.callConvert catalogue type (Action.text catalogue cell)).run state =
      (.ok (.done made effort), read) →
        (catalogue.describe type).owns (state.contentOf made) = true
  assigned : ∀ assign, (catalogue.describe type).assign? = some assign →
    ∀ view target source content, assign view target source = .ok content →
      (catalogue.describe type).owns content = true

variable {catalogue : Catalogue Data} {state : State Data} {cell : CellRef Data} {type : TypeId}

/-- A write into an accepted payload is accepted where the new content is. A payload without an
object keeps the content that it has. -/
theorem owns_setObject {target : Payload Data} {content : Content Data}
    (before : (catalogue.describe type).owns (state.content target) = true)
    (after : (catalogue.describe type).owns content = true) :
    (catalogue.describe type).owns ((state.setObject target content).content target) = true := by
  cases target with
  | object reference =>
      have written : (state.setObject (.object reference) content).content (.object reference) =
        content := Store.get_set_self ..
      rwa [written]
  | plain value => exact before

end State

namespace Action

variable {catalogue : Catalogue Data} {cell : CellRef Data} {type : TypeId}
  {payload : Payload Data} {state later : State Data}

theorem InstallRun.ending_of_unfailing {ending : Except Fault Unit}
    (installed : InstallRun catalogue cell type payload state ending later)
    (free : ∀ representation, (state.cells.get cell).representation = some representation →
      ∀ view argument fault,
        (catalogue.describe representation.type).free view argument ≠ .error fault)
    (assign : ∀ assign, (catalogue.describe type).assign? = some assign →
      ∀ view target source fault, assign view target source ≠ .error fault) :
    ending = .ok () := by
  cases installed with
  | assigned accepted written same => rfl
  | replaced separate same => rfl
  | unassigned accepted failed same =>
      obtain ⟨hook, calls, able, failed⟩ := failed
      exact absurd failed (assign hook able _ _ _ _)
  | lost held failed same =>
      obtain ⟨calls, failed⟩ := failed
      exact absurd failed (free _ held _ _ _)

/-- An install that succeeds leaves a payload of its type. It is the one that the cell had before
if the type assigns. -/
theorem InstallRun.holds (installed : InstallRun catalogue cell type payload state (.ok ()) later) :
    ∃ filled, later.Holds cell type filled := by
  cases installed with
  | @assigned target content _ accepted written same =>
      refine ⟨target, ?_⟩
      unfold State.Holds
      rw [same.cells, State.cells_setObject]
      exact held_of_payload? accepted
  | replaced separate same =>
      refine ⟨payload, ?_⟩
      unfold State.Holds
      rw [same.cells, State.get_setRepresentation]

theorem InstallRun.fits (installed : InstallRun catalogue cell type payload state (.ok ()) later)
    (made : (catalogue.describe type).owns (state.content payload) = true)
    (assigned : ∀ assign, (catalogue.describe type).assign? = some assign →
      ∀ view target source content, assign view target source = .ok content →
        (catalogue.describe type).owns content = true) :
    later.Fits catalogue cell type := by
  cases installed with
  | @assigned target content _ accepted written same =>
      obtain ⟨assign, calls, able, written⟩ := written
      refine ⟨target, ?_, ?_⟩
      · unfold State.Holds
        rw [same.cells, State.cells_setObject]
        exact held_of_payload? accepted
      · rw [same.content]
        exact State.owns_setObject (State.owned_of_payload? accepted)
          (assigned assign able _ _ _ content written)
  | replaced separate same =>
      refine ⟨payload, ?_, ?_⟩
      · unfold State.Holds
        rw [same.cells, State.get_setRepresentation]
      · rw [same.content]
        exact made

/-- A payload that may be new has its content when it is installed. -/
theorem run_installMade (made : Made Data) (state : State Data) :
    ∃ payload present, (installMade catalogue cell type made).run state =
        (install catalogue cell type payload).run present ∧
      present.cells = state.cells ∧ present.content payload = state.contentOf made := by
  unfold installMade
  cases made with
  | existing payload => exact ⟨payload, state, rfl, rfl, rfl⟩
  | object content =>
      refine ⟨_, _, run_bind_ok (run_make_object content state) _, rfl, ?_⟩
      exact state.get_addObject_next content

section conversion

variable {registry : Ref Registry} {name : String}

theorem run_convert_of_unknown (unknown : (state.registries.get registry).get? name = none) :
    (convert catalogue registry cell name).run state = (.ok (.unregistered name), state) := by
  unfold convert
  rw [run_bind_ok (run_state state)]
  simp only [unknown, run_pure]

/-- A cell that has the type already is not touched. -/
theorem run_convert_of_fits (known : (state.registries.get registry).get? name = some type)
    (fits : state.Fits catalogue cell type) :
    (convert catalogue registry cell name).run state =
      (.ok (.done () ⟨none, some true⟩), state) := by
  unfold convert
  rw [run_bind_ok (run_state state)]
  simp only [known, State.isCompatible_iff_fits.mpr fits, if_true, run_pure]

/-- How a conversion to a type that the cell does not have yet ends when no hook fails. -/
inductive Converted (catalogue : Catalogue Data) (registry : Ref Registry) (cell : CellRef Data)
    (name : String) (type : TypeId) (state : State Data) :
    Except Fault (Outcome Unit) → State Data → Prop
  /-- The failure of the type is handed on. -/
  | refused {failure : Failure Diagnostic} {effort : Effort} {later : State Data}
      (refuses : (callConvert catalogue type (text catalogue cell)).run state =
        (.ok (.fail failure effort), later))
      (consulted : state.Consulted catalogue cell later) :
      Converted catalogue registry cell name type state (.ok (.fail failure effort)) later
  | filled {made : Made Data} {effort : Effort} {read later : State Data}
      (makes : (callConvert catalogue type (text catalogue cell)).run state =
        (.ok (.done made effort), read))
      (holds : ∃ payload, later.Holds cell type payload)
      (settled : state.Accepting catalogue cell type →
        (convert catalogue registry cell name).run later =
          (.ok (.done () ⟨none, some true⟩), later)) :
      Converted catalogue registry cell name type state (.ok (.done () .unknown)) later

theorem converted_of_unfailing (known : (state.registries.get registry).get? name = some type)
    (misfit : ¬ state.Fits catalogue cell type)
    (unfailing : state.Unfailing catalogue cell type) :
    Converted catalogue registry cell name type state
      ((convert catalogue registry cell name).run state).1
      ((convert catalogue registry cell name).run state).2 := by
  have run := convert_run catalogue registry cell name state
  have surroundings := inside_convert catalogue registry cell name state
  have consulting : state.Consulted catalogue cell
      ((callConvert catalogue type (text catalogue cell)).run state).2 := consulted_callConvert state
  generalize (convert catalogue registry cell name).run state = ended at run surroundings ⊢
  obtain ⟨ending, later⟩ := ended
  have registered {other : TypeId}
      (found : (state.registries.get registry).get? name = some other) : type = other :=
    Option.some.inj (known.symm.trans found)
  cases run with
  | unknown unknown => cases unknown.symm.trans known
  | kept found compatible =>
      obtain rfl := registered found
      exact absurd (State.isCompatible_iff_fits.mp compatible) misfit
  | unread found other ended =>
      obtain rfl := registered found
      exact absurd ended (unfailing.convert _ _)
  | refused found other ended =>
      obtain rfl := registered found
      rw [ended] at consulting
      exact .refused ended consulting
  | @installed _ made effort read _ ending found other ended installed =>
      obtain rfl := registered found
      rw [ended] at consulting
      obtain ⟨payload, present, run, cells, content⟩ := run_installMade made read
      have held (other : CellRef Data) : (present.cells.get other).representation =
          (state.cells.get other).representation := by
        rw [cells, consulting.representation]
      have filled := install_run catalogue cell type payload present
      rw [← run, installed] at filled
      obtain rfl := filled.ending_of_unfailing
        (fun representation holds => unfailing.free representation ((held cell).symm.trans holds))
        unfailing.assign
      refine .filled ended filled.holds fun accepting => ?_
      have owned : (catalogue.describe type).owns (present.content payload) = true := by
        rw [content, consulting.contentOf]
        exact accepting.made made effort read ended
      apply run_convert_of_fits
      · rw [surroundings.registries]
        exact known
      · exact filled.fits owned accepting.assigned

/-- Only a cell that has this very type counts as converted already. -/
theorem fits_of_cached (known : (state.registries.get registry).get? name = some type)
    (cached : ((convert catalogue registry cell name).run state).1 =
      .ok (.done () ⟨none, some true⟩)) : state.Fits catalogue cell type := by
  have run := convert_run catalogue registry cell name state
  generalize (convert catalogue registry cell name).run state = ended at run cached
  obtain ⟨ending, later⟩ := ended
  cases run with
  | kept found compatible =>
      obtain rfl := Option.some.inj (found.symm.trans known)
      exact State.isCompatible_iff_fits.mp compatible
  | @installed _ _ _ _ _ ending found other ended installed =>
      -- What a conversion installs is reported without an effort.
      cases ending <;> cases cached
  | _ => cases cached

end conversion

end Action

/-- A conversion to an unknown name fails, and a cell that has the type of the name is left as it
is. Every other conversion fails as the type does and keeps the representation, or it gives the
cell the type. -/
theorem conversion_all_or_nothing (catalogue : Catalogue Data) (registry : Ref Registry)
    (cell : CellRef Data) (name : String) (state : State Data) :
    let run := (Action.convert catalogue registry cell name).run state
    match (state.registries.get registry).get? name with
    | none => run = (.ok (.unregistered name), state)
    | some type =>
        (state.Fits catalogue cell type → run = (.ok (.done () ⟨none, some true⟩), state)) ∧
        (run.1 = .ok (.done () ⟨none, some true⟩) → state.Fits catalogue cell type) ∧
        (¬ state.Fits catalogue cell type → state.Unfailing catalogue cell type →
          Action.Converted catalogue registry cell name type state run.1 run.2) := by
  intro run
  cases known : (state.registries.get registry).get? name with
  | none => exact Action.run_convert_of_unknown known
  | some type =>
      refine ⟨?_, ?_, ?_⟩
      · exact Action.run_convert_of_fits known
      · exact Action.fits_of_cached known
      · exact Action.converted_of_unfailing known

/-- A type that shares its name with the wanted one does not count. The payload that the wanted type
makes takes its place, and the next conversion finds it there. -/
theorem conversion_all_or_nothing_same_name :
    let word : ValueType String :=
      { name := "word"
        owns := fun content => content matches .data _
        free := fun _ _ => .ok ()
        duplicate := fun _ argument => .ok (.existing argument.payload)
        regenerate := fun _ _ => .ok "start"
        convert := fun _ => .fromText fun text => .ok (.done (.object (.data text)) .unknown)
        assign? := none }
    let catalogue : Catalogue String := ⟨fun _ => word⟩
    let state := session catalogue
      [.ofPayload (.custom 1) (.existing (.plain "stop")), .register ⟨0⟩ (.custom 0),
        .addRegistry []]
    let run := (Action.convert catalogue ⟨0⟩ ⟨0⟩ "word").run state
    ¬ state.Fits catalogue ⟨0⟩ (.custom 0) ∧ state.Unfailing catalogue ⟨0⟩ (.custom 0) ∧
      state.Accepting catalogue ⟨0⟩ (.custom 0) ∧ run.1 = .ok (.done () .unknown) ∧
        (Action.convert catalogue ⟨0⟩ ⟨0⟩ "word").run run.2 =
          (.ok (.done () ⟨none, some true⟩), run.2) := by
  intro word catalogue state run
  have known : (state.registries.get ⟨0⟩).get? "word" = some (.custom 0) := by decide +kernel
  have misfit : ¬ state.Fits catalogue ⟨0⟩ (.custom 0) := by
    rw [← State.isCompatible_iff_fits]
    decide +kernel
  have makes (ending read) (ended : (Action.callConvert catalogue (.custom 0)
      (Action.text catalogue ⟨0⟩)).run state = (ending, read)) :
      ending = .ok (.done (.object (.data "start")) .unknown) := (congrArg Prod.fst ended).symm
  have unfailing : state.Unfailing catalogue ⟨0⟩ (.custom 0) := by
    constructor
    · intro fault read ended
      cases makes _ read ended
    · rintro ⟨type, payload⟩ held view argument fault
      cases type <;> exact nofun
    · intro assign able
      cases able
  have accepting : state.Accepting catalogue ⟨0⟩ (.custom 0) := by
    constructor
    · intro made effort read ended
      cases makes _ read ended
      rfl
    · intro assign able
      cases able
  have converted := conversion_all_or_nothing catalogue ⟨0⟩ ⟨0⟩ "word" state
  simp only [known] at converted
  have ended := converted.2.2 misfit unfailing
  refine ⟨misfit, unfailing, accepting, ?_⟩
  change Action.Converted catalogue ⟨0⟩ ⟨0⟩ "word" (.custom 0) state run.1 run.2 at ended
  clear_value run
  obtain ⟨ending, later⟩ := run
  cases ended with
  | refused refuses consulted => cases makes _ _ refuses
  | filled makes holds settled => exact ⟨rfl, settled accepting⟩

end CommandWords
