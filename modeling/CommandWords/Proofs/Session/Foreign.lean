/-
This file shows that no custom type comes by the object of a resolution, as long as neither the
caller nor a hook hands one to it.
-/

import CommandWords.Proofs.Session.LastAnswer

namespace CommandWords

variable {Data : Type} {catalogue : Catalogue Data}

namespace State

/-- The payload is no object of a resolution. Any object that it refers to was made. -/
def Foreign (state : State Data) : Payload Data → Prop
  | .object reference =>
      state.objects.has reference = true ∧ (state.objects.get reference).resolution? = none
  | .plain _ => True

def MakesForeign (state : State Data) : Made Data → Prop
  | .object content => content.resolution? = none
  | .existing payload => state.Foreign payload

/-- No custom type has the object of a resolution. -/
def Apart (state : State Data) : Prop :=
  ∀ cell number payload, state.Holds cell (.custom number) payload → state.Foreign payload

section objects

variable {first second state : State Data} {payload : Payload Data}

theorem Foreign.content (foreign : state.Foreign payload) :
    (state.content payload).resolution? = none := by
  cases payload with
  | object reference => exact foreign.2
  | plain value => rfl

theorem Foreign.of_objects (foreign : first.Foreign payload)
    (objects : second.objects = first.objects) : second.Foreign payload := by
  cases payload with
  | object reference => rwa [Foreign, objects]
  | plain value => trivial

theorem Foreign.addObject (foreign : state.Foreign payload) (content : Content Data) :
    (state.addObject content).Foreign payload := by
  cases payload with
  | object reference =>
      obtain ⟨made, plain⟩ := foreign
      refine ⟨Store.has_add made content, ?_⟩
      rw [get_addObject_old state (of_decide_eq_true made), plain]
  | plain value => trivial

theorem foreign_next (state : State Data) {content : Content Data}
    (plain : content.resolution? = none) :
    (state.addObject content).Foreign (.object state.objects.next) := by
  refine ⟨Store.has_add_next _ content, ?_⟩
  rw [get_addObject_next, plain]

/-- A write makes an object of a resolution only of such an object. -/
theorem Foreign.setObject (foreign : state.Foreign payload) {target : Payload Data}
    {content : Content Data}
    (plain : content.resolution? = none ∨ (state.content target).resolution? ≠ none) :
    (state.setObject target content).Foreign payload := by
  cases payload with
  | plain value => trivial
  | object reference =>
      by_cases same : target = .object reference
      · subst same
        rcases plain with plain | resolves
        · exact ⟨foreign.1, by simp [State.setObject, plain]⟩
        · exact absurd foreign.2 resolves
      · obtain ⟨made, kept⟩ := foreign
        refine ⟨?_, by rw [get_setObject_other state same, kept]⟩
        rwa [Store.has, size_setObject]

theorem Prepared.foreign (prepared : first.Prepared catalogue second)
    (foreign : first.Foreign payload) : second.Foreign payload := by
  cases payload with
  | plain value => trivial
  | object reference =>
      obtain ⟨made, kept⟩ := foreign
      have old := of_decide_eq_true made
      refine ⟨decide_eq_true (Nat.lt_of_lt_of_le old prepared.objectCount), ?_⟩
      rw [prepared.object_old old, kept]

theorem Prepared.makesForeign (prepared : first.Prepared catalogue second) {made : Made Data}
    (foreign : first.MakesForeign made) : second.MakesForeign made := by
  cases made with
  | object content => exact foreign
  | existing payload => exact prepared.foreign foreign

/-- Cells that keep or lose what they hold, and objects that are as foreign as before. -/
theorem Apart.mono (apart : first.Apart)
    (holds : ∀ {cell number payload}, second.Holds cell (.custom number) payload →
      first.Holds cell (.custom number) payload)
    (foreign : ∀ {payload}, first.Foreign payload → second.Foreign payload) : second.Apart :=
  fun cell number payload held => foreign (apart cell number payload (holds held))

theorem Apart.of_equal (apart : first.Apart) (cells : second.cells = first.cells)
    (objects : second.objects = first.objects) : second.Apart := by
  apply apart.mono
  · intro cell number payload held
    rwa [Holds, cells] at held
  · exact fun foreign => foreign.of_objects objects

theorem Apart.of_same (apart : first.Apart) (same : first.SameMemory second) : second.Apart :=
  apart.of_equal same.cells same.objects

theorem Apart.of_prepared (apart : first.Apart) (prepared : first.Prepared catalogue second) :
    second.Apart := by
  apply apart.mono
  · intro cell number payload held
    rwa [Holds, prepared.representation] at held
  · exact prepared.foreign

/-- A cell may get a representation that is foreign or of another type. -/
theorem Apart.setRepresentation (apart : state.Apart) (cell : CellRef Data)
    {representation : Option (Representation Data)}
    (foreign : ∀ number payload, representation = some ⟨.custom number, payload⟩ →
      state.Foreign payload) : (state.setRepresentation cell representation).Apart := by
  intro other number payload held
  by_cases same : other = cell
  · rw [same, Holds, get_setRepresentation] at held
    exact (foreign number payload held).of_objects rfl
  · rw [Holds, get_setRepresentation_other _ _ same] at held
    exact (apart other number payload held).of_objects rfl

theorem Apart.addCell (apart : state.Apart) {cell : Cell Data}
    (foreign : ∀ number payload, cell.representation = some ⟨.custom number, payload⟩ →
      state.Foreign payload) : (state.addCell cell).Apart := by
  intro other number payload held
  by_cases same : other = state.cells.next
  · rw [same, Holds, get_addCell_next] at held
    exact (foreign number payload held).of_objects rfl
  · rw [Holds, get_addCell_other _ same] at held
    exact (apart other number payload held).of_objects rfl

theorem Apart.setText (apart : state.Apart) (cell : CellRef Data) (text : Option String) :
    (state.setText cell text).Apart := by
  apply apart.mono
  · intro other number payload held
    rwa [Holds, representation_setText] at held
  · exact id

theorem Apart.setObject (apart : state.Apart) {target : Payload Data} {content : Content Data}
    (plain : content.resolution? = none ∨ (state.content target).resolution? ≠ none) :
    (state.setObject target content).Apart := by
  apply apart.mono
  · intro cell number payload held
    rwa [Holds, cells_setObject] at held
  · exact fun foreign => foreign.setObject plain

/-- The object of a resolution is held as a resolution. -/
theorem Apart.resolves (apart : state.Apart) {cell : CellRef Data} {type : TypeId}
    {reference : Ref (Content Data)} {resolution : Resolution}
    (held : state.Holds cell type (.object reference))
    (content : state.objects.get reference = .resolution resolution) :
    state.Holds cell .resolution (.object reference) := by
  cases type with
  | resolution => exact held
  | custom number =>
      have plain := (apart cell number _ held).2
      rw [content] at plain
      cases plain

/-- A custom type that has no object of a resolution writes into none. -/
theorem Apart.safeWrites {before after : State Data} {operation : Operation Data}
    (apart : before.Apart) (owned : before.Owned) :
    before.SafeWrites catalogue operation after := by
  rintro prepared committed prepares _ ⟨_, _, _, target, content, _, held, rfl⟩ cell payload holds
  have kept := (Frame.of_prepared prepares).owned owned
  obtain ⟨reference, resolution, rfl, _, stored, _⟩ := kept.object holds
  refine get_setObject_other prepared ?_ content
  rintro rfl
  cases held.symm.trans ((apart.of_prepared prepares).resolves held stored)

end objects

/-- What was apart stays apart. -/
def KeepsApart (first second : State Data) : Prop := first.Apart → second.Apart

instance : IsPreorder (State Data) KeepsApart where
  refl _ := id
  trans _ _ _ before after := after ∘ before

end State

/-- The hooks of custom types hand out no object of a resolution, and make none. -/
structure Catalogue.GivesForeign (catalogue : Catalogue Data) (state : State Data) : Prop where
  duplicate : ∀ number calls payload made, state.Foreign payload →
    (catalogue.custom number).duplicate ⟨state.tables, calls⟩ (state.argument payload) = .ok made →
      state.MakesForeign made
  decided : ∀ number calls made effort,
    (catalogue.custom number).convert ⟨state.tables, calls⟩ = .decided (.ok (.done made effort)) →
      state.MakesForeign made
  converted : ∀ number calls result text made effort,
    (catalogue.custom number).convert ⟨state.tables, calls⟩ = .fromText result →
      result text = .ok (.done made effort) → state.MakesForeign made
  assign : ∀ number assign calls (target source : Argument Data) content,
    (catalogue.custom number).assign? = some assign → target.content.resolution? = none →
      source.content.resolution? = none →
        assign ⟨state.tables, calls⟩ target source = .ok content → content.resolution? = none

namespace Action

open State (KeepsApart Apart)

variable (catalogue : Catalogue Data)

theorem apart_detach (cell : CellRef Data) : (detach catalogue cell).Relates KeepsApart := by
  intro state apart
  have bare : (state.setRepresentation cell none).Apart := apart.setRepresentation cell (by simp)
  have detached := detach_run catalogue cell state
  generalize (detach catalogue cell).run state = ended at detached ⊢
  obtain ⟨ending, later⟩ := ended
  cases detached with
  | freed same => exact bare.of_same same
  | lost held failed same => exact bare.of_same same

theorem apart_freeRepresentation (cell : CellRef Data) :
    (freeRepresentation catalogue cell).Relates KeepsApart := by
  intro state apart
  have run := freeRepresentation_run catalogue cell state
  generalize (freeRepresentation catalogue cell).run state = ended at run ⊢
  obtain ⟨ending, later⟩ := ended
  cases run with
  | bare held => exact apart
  | unread held ended => exact apart.of_prepared ((prepares_text catalogue cell).ended ended)
  | detached held ended gone =>
      have kept := apart.of_prepared ((prepares_text catalogue cell).ended ended)
      exact (apart_detach catalogue cell).ended gone kept

theorem apart_dispose (cell : CellRef Data) : (dispose catalogue cell).Relates KeepsApart := by
  refine (apart_detach catalogue cell).bind fun _ => ?_
  exact fun _ apart => apart.setText cell none

theorem apart_invalidateText (cell : CellRef Data) :
    (invalidateText cell).Relates KeepsApart :=
  relates_invalidateText cell fun _ apart => apart.setText cell none

variable {catalogue}

/-- However a payload is installed, no custom type gets the object of a resolution. -/
theorem InstallRun.apart {before state later : State Data} {cell : CellRef Data} {type : TypeId}
    {payload : Payload Data} {ending : Except Fault Unit}
    (installed : InstallRun catalogue cell type payload state ending later)
    (gives : catalogue.GivesForeign before) (tables : state.tables = before.tables)
    (apart : state.Apart) (foreign : type ≠ .resolution → state.Foreign payload) :
    later.Apart := by
  cases installed with
  | @assigned target content later accepted written same =>
      refine State.Apart.of_same (apart.setObject ?_) same
      obtain ⟨assign, calls, able, written⟩ := written
      cases type with
      | resolution =>
          exact .inr (resolves_of_payload? accepted)
      | custom number =>
          have held := apart cell number target (held_of_payload? accepted)
          rw [tables] at written
          exact .inl (gives.assign number assign calls _ _ content able held.content
            (foreign (by simp)).content written)
  | unassigned accepted failed same => exact apart.of_same same
  | replaced separate same =>
      refine State.Apart.of_same (apart.setRepresentation cell ?_) same
      rintro number given ⟨⟩
      exact foreign (by simp)
  | lost held failed same =>
      exact State.Apart.of_same (apart.setRepresentation cell (by simp)) same

theorem foreign_of_make {made : Made Data} {payload : Payload Data} {state later : State Data}
    (foreign : state.MakesForeign made)
    (ended : (make made).run state = (.ok payload, later)) : later.Foreign payload := by
  cases made with
  | object content =>
      cases ended
      exact state.foreign_next foreign
  | existing given =>
      cases ended
      exact foreign

/-- A payload that is made or exists already is foreign for what follows. -/
theorem apart_make {Value : Type} {made : Made Data} {state : State Data}
    (foreign : state.MakesForeign made) {next : Payload Data → Action Data Value}
    (rest : ∀ payload later, later.tables = state.tables → later.Foreign payload →
      KeepsApart later ((next payload).run later).2) :
    KeepsApart state ((make made >>= next).run state).2 := by
  cases made with
  | object content =>
      rw [run_bind_ok (run_make_object content state)]
      intro apart
      have grown : (state.addObject content).Apart :=
        apart.mono id fun foreign => foreign.addObject content
      exact rest _ _ rfl (state.foreign_next foreign) grown
  | existing payload => exact rest payload state rfl foreign

theorem apart_addCell {text : Option String} {number : Nat} {payload : Payload Data}
    {state : State Data} (foreign : state.Foreign payload) :
    KeepsApart state (state.addCell ⟨text, some ⟨.custom number, payload⟩⟩) := by
  refine fun apart => apart.addCell ?_
  rintro other held ⟨⟩
  exact foreign

theorem apart_ofMade {number : Nat} {made : Made Data} {state : State Data}
    (foreign : state.MakesForeign made) :
    KeepsApart state ((ofMade (.custom number) made).run state).2 :=
  apart_make foreign fun _ _ _ given => apart_addCell given

variable {before state : State Data} (gives : catalogue.GivesForeign before)

include gives

theorem apart_installMade {cell : CellRef Data} {number : Nat} {made : Made Data}
    (tables : state.tables = before.tables) (foreign : state.MakesForeign made) :
    KeepsApart state ((installMade catalogue cell (.custom number) made).run state).2 := by
  refine apart_make foreign fun payload later same given apart => ?_
  have installed := install_run catalogue cell (.custom number) payload later
  exact installed.apart gives (same.trans tables) apart fun _ => given

/-- The copy of a custom payload is no object of a resolution. -/
theorem foreign_of_callDuplicate {number : Nat} {payload copy : Payload Data}
    {later : State Data} (foreign : before.Foreign payload)
    (ended : (callDuplicate catalogue ⟨.custom number, payload⟩).run before =
      (.ok copy, later)) : later.Foreign copy := by
  let called := before.noted (.custom number) .duplicate [before.argument payload]
  let result := (catalogue.custom number).duplicate called.view (before.argument payload)
  have called_ended : (callDuplicate catalogue ⟨.custom number, payload⟩).run before =
      (ofResult result >>= make).run called := rfl
  rw [called_ended] at ended
  obtain ⟨made, between, given, ended⟩ := between_of_bind ended
  obtain ⟨duplicated, rfl⟩ := Prod.mk.inj given
  have makes : called.MakesForeign made :=
    gives.duplicate number _ payload made foreign duplicated
  exact foreign_of_make makes ended

theorem apart_duplicate (source : CellRef Data) :
    KeepsApart before ((duplicate catalogue source).run before).2 := by
  intro apart
  have run := duplicate_run catalogue source before
  generalize (duplicate catalogue source).run before = ended at run ⊢
  obtain ⟨ending, later⟩ := ended
  cases run with
  | bare held => exact apart.addCell (by simp)
  | refused held ended =>
      exact apart.of_prepared ((prepares_callDuplicate catalogue _).ended ended)
  | @copied representation copy later held ended =>
      have kept := apart.of_prepared ((prepares_callDuplicate catalogue _).ended ended)
      obtain ⟨type, payload⟩ := representation
      refine kept.addCell ?_
      rintro number given ⟨⟩
      exact foreign_of_callDuplicate gives (apart source number payload held) ended

/-- What a conversion hands over is as foreign as its hook makes it. -/
theorem makesForeign_of_callConvert {cell : CellRef Data} {number : Nat} {read : State Data}
    {made : Made Data} {effort : Effort}
    (ended : (callConvert catalogue (.custom number) (text catalogue cell)).run before =
      (.ok (.done made effort), read)) : read.MakesForeign made := by
  have prepared := (prepares_callConvert catalogue (.custom number) cell).ended ended
  cases converts_of_callConvert ended with
  | decided decided =>
      obtain ⟨calls, decided⟩ := decided
      exact prepared.makesForeign (gives.decided number calls made effort decided)
  | @converted key converted stored =>
      obtain ⟨calls, result, needed, converted⟩ := converted
      have foreign := gives.converted number calls result key made effort needed converted
      exact prepared.makesForeign foreign

theorem apart_convert (registry : Ref Registry) (cell : CellRef Data) (name : String) :
    KeepsApart before ((convert catalogue registry cell name).run before).2 := by
  intro apart
  have run := convert_run catalogue registry cell name before
  generalize (convert catalogue registry cell name).run before = ended at run ⊢
  obtain ⟨ending, later⟩ := ended
  cases run with
  | unknown unknown => exact apart
  | kept known compatible => exact apart
  | unread known other ended =>
      exact apart.of_prepared ((prepares_callConvert catalogue _ cell).ended ended)
  | refused known other ended =>
      exact apart.of_prepared ((prepares_callConvert catalogue _ cell).ended ended)
  | @installed type made _ read _ _ known other ended installed =>
      have prepared := (prepares_callConvert catalogue type cell).ended ended
      cases type with
      | resolution =>
          -- The type of resolutions refuses every conversion.
          cases ended
      | custom number =>
          have foreign := makesForeign_of_callConvert gives ended
          have kept : KeepsApart read
              ((installMade catalogue cell (.custom number) made).run read).2 :=
            apart_installMade gives prepared.tables foreign
          rw [installed] at kept
          exact kept (apart.of_prepared prepared)

theorem apart_ask (question : Question Data) :
    KeepsApart before ((question.ask catalogue).run before).2 := by
  intro apart
  have asked := question.ask_run catalogue before
  generalize (question.ask catalogue).run before = ended at asked ⊢
  obtain ⟨ending, later⟩ := ended
  cases asked with
  | hit kept => exact apart.of_same (before.noteEvent_same _)
  | malformed unkept unformed => exact apart
  | unread unkept ended => exact apart.of_prepared ((prepares_text catalogue _).ended ended)
  | refused reads unresolved =>
      exact (apart.of_prepared reads.prepared).of_same (State.noteEvent_same ..)
  | settled reads resolved installed =>
      have kept := installed.run.apart gives reads.prepared.tables
        (apart.of_prepared (.object reads.prepared _)) fun other => absurd rfl other
      exact kept.of_same (State.noteEvent_same ..)
  | lost reads installed =>
      exact installed.run.apart gives reads.prepared.tables
        (apart.of_prepared (.object reads.prepared _)) fun other => absurd rfl other

theorem apart_settle (question : Question Data) (interpreter : InterpreterRef Data) :
    KeepsApart before ((question.ask catalogue >>= settle interpreter).run before).2 := by
  intro apart
  have asked := apart_ask gives question apart
  exact asked.of_same (settled_same (question.ask catalogue) interpreter before)

end Action

/-- A payload that the caller hands to a type. -/
def Operation.made? : Operation Data → Option (Made Data)
  | ofPayload _ made => some made
  | install _ _ made => some made
  | _ => none

/-- Resolutions come from lookups and copies alone. Neither the caller nor a hook hands the object
of one to another type. -/
structure Step.Typed (catalogue : Catalogue Data) (step : Step Data) : Prop where
  custom : step.operation.InstallsCustom
  given : ∀ made ∈ step.operation.made?, step.before.MakesForeign made
  hooks : catalogue.GivesForeign step.before

theorem Step.apart {step : Step Data} (typed : step.Typed catalogue) :
    State.KeepsApart step.before (step.after catalogue) := by
  obtain ⟨state, operation⟩ := step
  obtain ⟨custom, given, gives⟩ := typed
  simp only [Step.after] at gives ⊢
  cases operation with
  | addTable table => exact (·.of_equal rfl rfl)
  | changeTable reference table => exact (·.of_equal rfl rfl)
  | ofText text => exact (·.addCell (by simp))
  | ofPayload type made =>
      cases type with
      | resolution => exact absurd rfl custom
      | custom number =>
          rw [Operation.perform, Action.run_map_after]
          exact Action.apart_ofMade (given made rfl)
  | invalidateText cell =>
      rw [Operation.perform, Action.run_map_after]
      exact Action.apart_invalidateText cell state
  | install cell type made =>
      cases type with
      | resolution => exact absurd rfl custom
      | custom number =>
          rw [Operation.perform, Action.run_map_after]
          exact Action.apart_installMade gives rfl (given made rfl)
  | freeRepresentation cell => exact (Action.apart_freeRepresentation catalogue cell).map _ state
  | duplicate cell =>
      rw [Operation.perform, Action.run_map_after]
      exact Action.apart_duplicate gives cell
  | dispose cell => exact (Action.apart_dispose catalogue cell).map _ state
  | lookup question =>
      rw [Operation.perform, Action.run_map_after]
      exact Action.apart_ask gives question
  | convert registry cell name =>
      rw [Operation.perform, Action.run_map_after]
      exact Action.apart_convert gives registry cell name
  | resolve interpreter cell table stride label exact =>
      rw [Operation.perform, Action.run_map_after, Action.run_resolve]
      exact Action.apart_settle gives _ interpreter
  | _ => exact (·.of_prepared (Operation.prepares_perform (by trivial) state))

/-- Every state of a typed run keeps the objects of resolutions away from custom types. -/
theorem Throughout.apart {operations : List (Operation Data)}
    (typed : Throughout catalogue (Step.Typed catalogue) operations) :
    (session catalogue operations).Apart := by
  induction operations with
  | nil =>
      intro cell number payload held
      cases held
  | cons operation earlier inductionHypothesis =>
      obtain ⟨latest, before⟩ := typed
      exact Step.apart latest (inductionHypothesis before)

/-- A typed run is honest, because a custom type writes into its own objects alone. -/
theorem Throughout.honest_of_typed {operations : List (Operation Data)}
    (typed : Throughout catalogue (Step.Typed catalogue) operations) :
    Throughout catalogue (Step.Honest catalogue) operations := by
  induction operations with
  | nil => trivial
  | cons operation earlier inductionHypothesis =>
      obtain ⟨latest, before⟩ := typed
      have honest := inductionHypothesis before
      have owned := honest.remembers.owned
      exact ⟨Step.honest_of_safeWrites latest.custom owned (before.apart.safeWrites owned), honest⟩

end CommandWords
