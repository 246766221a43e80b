/-
This file shows that printing words disturbs no cell. Missing texts are regenerated, each of them
once at most, and everything else stays as it is even if a text cannot be regenerated.
-/

import CommandWords.Proofs.Interpreter.Flags
import CommandWords.Proofs.Lookup.FailedLookup
import CommandWords.Proofs.Session.Formless
import CommandWords.Proofs.Usage.ReadBack

namespace CommandWords

variable {Data Value Result : Type}

namespace State

/-- The call that asks the type of a representation for the text. -/
def textCall (state : State Data) (representation : Representation Data) : HookCall Data :=
  ⟨representation.type, .regenerate, [state.argument representation.payload]⟩

variable (catalogue : Catalogue Data) (words : List (CellRef Data))

/-- The word is printed by its text, which is missing. -/
structure Unwritten (state : State Data) (cell : CellRef Data)
    (representation : Representation Data) : Prop extends
    state.Textless cell representation where
  printed : cell ∈ words
  plain : state.resolution? catalogue cell = none

/-- The missing texts of some words were regenerated one after the other. The latest comes first. -/
inductive Regenerated (start : State Data) : List (CellRef Data) → State Data → Prop
  | nothing : Regenerated start [] start
  | next {cells : List (CellRef Data)} {middle : State Data} {cell : CellRef Data}
      {representation : Representation Data} {text : String}
      (earlier : Regenerated start cells middle)
      (unwritten : middle.Unwritten catalogue words cell representation)
      (made : middle.regeneration catalogue representation = .ok text) :
      Regenerated start (cell :: cells) ((middle.asked representation).setText cell (some text))

/-- Printing ends with regenerated texts, or at the first text that is refused. -/
inductive Prints (start : State Data) : Except Fault Value → State Data → Prop
  | settled {ending : Except Fault Value} {cells : List (CellRef Data)} {later : State Data}
      (regenerated : Regenerated catalogue words start cells later) : Prints start ending later
  | refused {cells : List (CellRef Data)} {middle : State Data} {cell : CellRef Data}
      {representation : Representation Data} {fault : Fault}
      (regenerated : Regenerated catalogue words start cells middle)
      (unwritten : middle.Unwritten catalogue words cell representation)
      (failed : middle.regeneration catalogue representation = .error fault) :
      Prints start (.error fault) (middle.asked representation)

/-- The text that a cell has now was missing, and a call gave it. -/
def Supplied (first second : State Data) (cell : CellRef Data) : Prop :=
  ∃ representation text earlier, first.Unwritten catalogue words cell representation ∧
    (first.textCall representation :: earlier) <:+ second.calls ∧
      (catalogue.describe representation.type).regenerate
        ⟨first.tables, first.textCall representation :: earlier⟩
        (first.argument representation.payload) = .ok text ∧
        (second.cells.get cell).text = some text

/-- The call asks for the text of a word that has none. -/
def AsksFor (state : State Data) (cell : CellRef Data) (call : HookCall Data) : Prop :=
  ∃ representation, state.Unwritten catalogue words cell representation ∧
    call = state.textCall representation

/-- What printing some words leaves behind. -/
structure Undisturbed (first second : State Data) : Prop where
  tables : second.tables = first.tables
  /-- The payloads have the contents that they had. -/
  objects : second.objects = first.objects
  registries : second.registries = first.registries
  ledger : second.ledger = first.ledger
  cellCount : second.cells.size = first.cells.size
  representation : ∀ cell,
    (second.cells.get cell).representation = (first.cells.get cell).representation
  /-- No word is asked for twice, and nothing else is called. -/
  calls : ∃ cells made, second.calls = made ++ first.calls ∧ cells.Nodup ∧
    List.Forall₂ (first.AsksFor catalogue words) cells made
  text : ∀ cell, (second.cells.get cell).text = (first.cells.get cell).text ∨
    first.Supplied catalogue words second cell

variable {catalogue words} {start middle later : State Data} {cells : List (CellRef Data)}
  {cell : CellRef Data} {representation : Representation Data}

theorem Regenerated.sameTexts (regenerated : Regenerated catalogue words start cells later) :
    start.SameTexts catalogue later := by
  induction regenerated with
  | nothing => exact refl_of (SameTexts catalogue) start
  | @next cells middle cell representation text earlier unwritten made inductionHypothesis =>
      have asked : middle.SameTexts catalogue (middle.asked representation) :=
        .of_same (middle.noted_same ..)
      apply trans_of (SameTexts catalogue) inductionHypothesis
      apply trans_of (SameTexts catalogue) asked
      exact .regenerated unwritten.missing unwritten.held ⟨_, made⟩

theorem Regenerated.surroundings (regenerated : Regenerated catalogue words start cells later) :
    start.SameSurroundings later := by
  induction regenerated with
  | nothing => exact refl_of SameSurroundings start
  | @next cells middle cell representation text earlier unwritten made inductionHypothesis =>
      apply trans_of SameSurroundings inductionHypothesis
      show middle.SameSurroundings ((middle.asked representation).setText cell (some text))
      exact ⟨rfl, rfl, rfl, rfl⟩

theorem Regenerated.cellCount (regenerated : Regenerated catalogue words start cells later) :
    later.cells.size = start.cells.size := by
  induction regenerated with
  | nothing => rfl
  | next earlier unwritten made inductionHypothesis => exact inductionHypothesis

theorem Regenerated.stored (regenerated : Regenerated catalogue words start cells later)
    (member : cell ∈ cells) : later.Stored cell := by
  induction regenerated with
  | nothing => cases member
  | @next cells middle latest representation text earlier unwritten made inductionHypothesis =>
      by_cases same : cell = latest
      · subst same
        exact ⟨text, by simp⟩
      · obtain ⟨found, stored⟩ := inductionHypothesis (List.mem_of_ne_of_mem same member)
        refine ⟨found, ?_⟩
        rw [get_setText_other _ _ same]
        exact stored

theorem Regenerated.not_mem (regenerated : Regenerated catalogue words start cells later)
    (missing : (later.cells.get cell).text = none) : cell ∉ cells := by
  intro member
  obtain ⟨text, stored⟩ := regenerated.stored member
  cases missing.symm.trans stored

theorem Regenerated.nodup (regenerated : Regenerated catalogue words start cells later) :
    cells.Nodup := by
  induction regenerated with
  | nothing => exact .nil
  | next earlier unwritten made inductionHypothesis =>
      exact List.nodup_cons.mpr ⟨earlier.not_mem unwritten.missing, inductionHypothesis⟩

/-- A text that is missing now was missing all the time. -/
theorem Regenerated.unwritten (regenerated : Regenerated catalogue words start cells later)
    (unwritten : later.Unwritten catalogue words cell representation) :
    start.Unwritten catalogue words cell representation := by
  have same := regenerated.sameTexts
  refine ⟨⟨?_, ?_⟩, unwritten.printed, ?_⟩
  · cases stored : (start.cells.get cell).text with
    | none => rfl
    | some text => cases unwritten.missing.symm.trans (same.stored stored)
  · rw [← same.representation, unwritten.held]
  · rw [← same.resolution?, unwritten.plain]

theorem Regenerated.textCall (regenerated : Regenerated catalogue words start cells later)
    (representation : Representation Data) :
    later.textCall representation = start.textCall representation := by
  simp only [State.textCall, argument, content_of_objects regenerated.sameTexts.objects]

theorem Regenerated.calls (regenerated : Regenerated catalogue words start cells later) :
    ∃ made, later.calls = made ++ start.calls ∧
      List.Forall₂ (start.AsksFor catalogue words) cells made := by
  induction regenerated with
  | nothing => exact ⟨[], rfl, .nil⟩
  | @next cells middle cell representation text earlier unwritten made inductionHypothesis =>
      obtain ⟨calls, grown, asked⟩ := inductionHypothesis
      refine ⟨middle.textCall representation :: calls, congrArg (_ :: ·) grown, .cons ?_ asked⟩
      exact ⟨representation, earlier.unwritten unwritten, earlier.textCall representation⟩

theorem Supplied.mono {second third : State Data}
    (supplied : start.Supplied catalogue words second cell)
    (text : (third.cells.get cell).text = (second.cells.get cell).text)
    (calls : second.calls <:+ third.calls) : start.Supplied catalogue words third cell := by
  obtain ⟨representation, found, earlier, unwritten, called, made, stored⟩ := supplied
  exact ⟨representation, found, earlier, unwritten, called.trans calls, made, text.trans stored⟩

theorem Regenerated.text (regenerated : Regenerated catalogue words start cells later)
    (cell : CellRef Data) :
    (later.cells.get cell).text = (start.cells.get cell).text ∨
      start.Supplied catalogue words later cell := by
  induction regenerated with
  | nothing => exact .inl rfl
  | @next cells middle latest representation text earlier unwritten made inductionHypothesis =>
      by_cases same : cell = latest
      · subst same
        have called := earlier.textCall representation
        refine .inr ⟨representation, text, middle.calls, earlier.unwritten unwritten, ?_, ?_, ?_⟩
        · rw [← called]
          exact List.suffix_refl _
        · have content := content_of_objects earlier.sameTexts.objects representation.payload
          rw [← called, ← earlier.sameTexts.tables, argument, ← content]
          exact made
        · simp
      · have kept : (((middle.asked representation).setText latest (some text)).cells.get
            cell).text = (middle.cells.get cell).text := by
          rw [get_setText_other _ _ same]
          rfl
        rcases inductionHypothesis with unchanged | supplied
        · exact .inl (kept.trans unchanged)
        · exact .inr (supplied.mono kept (List.suffix_cons _ _))

theorem Regenerated.undisturbed (regenerated : Regenerated catalogue words start cells later) :
    start.Undisturbed catalogue words later := by
  have same := regenerated.sameTexts
  have surroundings := regenerated.surroundings
  obtain ⟨made, grown, asked⟩ := regenerated.calls
  exact {
    tables := same.tables
    objects := same.objects
    registries := surroundings.registries
    ledger := surroundings.ledger
    cellCount := regenerated.cellCount
    representation := same.representation
    calls := ⟨cells, made, grown, regenerated.nodup, asked⟩
    text := regenerated.text }

/-- A refused call comes last, and stores nothing. -/
theorem Prints.undisturbed {ending : Except Fault Value}
    (prints : Prints catalogue words start ending later) :
    start.Undisturbed catalogue words later := by
  cases prints with
  | settled regenerated => exact regenerated.undisturbed
  | @refused cells middle cell representation _ regenerated unwritten failed =>
      obtain ⟨made, grown, asked⟩ := regenerated.calls
      have before := regenerated.undisturbed
      refine { before with
        calls := ⟨cell :: cells, middle.textCall representation :: made, ?_, ?_, ?_⟩
        text := ?_ }
      · exact congrArg (_ :: ·) grown
      · exact List.nodup_cons.mpr ⟨regenerated.not_mem unwritten.missing, regenerated.nodup⟩
      · refine .cons ⟨representation, regenerated.unwritten unwritten, ?_⟩ asked
        exact regenerated.textCall representation
      · intro other
        rcases before.text other with unchanged | supplied
        · exact .inl unchanged
        · exact .inr (supplied.mono rfl (List.suffix_cons _ _))

theorem Prints.map {ending : Except Fault Value} (function : Value → Result)
    (prints : Prints catalogue words start ending later) :
    Prints catalogue words start (ending.map function) later := by
  cases prints with
  | settled regenerated => exact .settled regenerated
  | refused regenerated unwritten failed => exact .refused regenerated unwritten failed

theorem Prints.interpreters {ending : Except Fault Value}
    (prints : Prints catalogue words start ending later) :
    later.interpreters = start.interpreters := by
  cases prints with
  | settled regenerated => exact regenerated.surroundings.interpreters
  | refused regenerated unwritten failed => exact regenerated.surroundings.interpreters

end State

namespace Action

variable (catalogue : Catalogue Data) (words : List (CellRef Data))

/-- The action goes on with printing the words, wherever it starts. -/
def Prints (action : Action Data Value) : Prop :=
  ∀ start cells present, State.Regenerated catalogue words start cells present →
    State.Prints catalogue words start (action.run present).1 (action.run present).2

variable {catalogue words}

theorem Prints.bind {action : Action Data Value} {next : Value → Action Data Result}
    (first : action.Prints catalogue words) (rest : ∀ value, (next value).Prints catalogue words) :
    (action >>= next).Prints catalogue words := by
  intro start cells present regenerated
  have before := first start cells present regenerated
  rw [run_bind]
  generalize action.run present = ended at before ⊢
  obtain ⟨ending, later⟩ := ended
  cases ending with
  | ok value =>
      cases before with
      | settled regenerated => exact rest value _ _ _ regenerated
  | error fault =>
      cases before with
      | settled regenerated => exact .settled regenerated
      | refused regenerated unwritten failed => exact .refused regenerated unwritten failed

theorem prints_pure (value : Value) : (pure value : Action Data Value).Prints catalogue words :=
  fun _ _ _ regenerated => .settled regenerated

/-- The text of a word is stored, regenerated or refused. -/
theorem prints_text {start present : State Data} {cells : List (CellRef Data)}
    {cell : CellRef Data} (regenerated : State.Regenerated catalogue words start cells present)
    (member : cell ∈ words) (plain : present.resolution? catalogue cell = none) :
    State.Prints catalogue words start ((text catalogue cell).run present).1
      ((text catalogue cell).run present).2 := by
  cases missing : (present.cells.get cell).text with
  | some found =>
      rw [run_text_of_stored catalogue missing]
      exact .settled regenerated
  | none =>
      cases held : (present.cells.get cell).representation with
      | none =>
          rw [run_text_of_formless ⟨missing, held⟩]
          exact .settled regenerated
      | some representation =>
          have unwritten : present.Unwritten catalogue words cell representation :=
            ⟨⟨missing, held⟩, member, plain⟩
          cases made : present.regeneration catalogue representation with
          | ok found =>
              rw [run_text_of_regenerated unwritten.toTextless made]
              exact .settled (.next regenerated unwritten made)
          | error fault =>
              rw [run_text_of_refused unwritten.toTextless made]
              exact .refused regenerated unwritten made

/-- A word that stands for a keyword needs no text. -/
theorem prints_showWord {cell : CellRef Data} (member : cell ∈ words) (mayQuote : Bool) :
    (showWord catalogue mayQuote cell).Prints catalogue words := by
  intro start cells present regenerated
  unfold showWord
  rw [run_bind_ok (run_state present)]
  cases plain : present.resolution? catalogue cell with
  | some resolution => exact .settled regenerated
  | none =>
      dsimp only
      rw [bind_pure_comp, run_map_ending, run_map_after]
      exact (prints_text regenerated member plain).map _

theorem prints_showWords {printed : List (CellRef Data)} (within : printed ⊆ words)
    (quoteFirst : Bool) : (showWords catalogue quoteFirst printed).Prints catalogue words := by
  induction printed generalizing quoteFirst with
  | nil => exact prints_pure []
  | cons first rest inductionHypothesis =>
      obtain ⟨member, within⟩ := List.cons_subset.mp within
      apply (prints_showWord member quoteFirst).bind
      intro word
      exact (inductionHypothesis within true).bind fun words => prints_pure _

theorem prints_usageText (printed : List (CellRef Data)) (options : UsageOptions Data) :
    (usageText catalogue printed options).Prints catalogue
      (Dispatch.undoAny options.dispatch printed) :=
  (prints_showWords (List.Subset.refl _) _).bind fun _ => prints_pure _

section again

variable {state later final : State Data}

/-- What a word printed is stored or stands for a keyword, so it is printed again. -/
theorem run_showWord_again {mayQuote : Bool} {cell : CellRef Data} {word : String}
    (ended : (showWord catalogue mayQuote cell).run state = (.ok word, later))
    (same : later.SameTexts catalogue final) :
    (showWord catalogue mayQuote cell).run final = (.ok word, final) := by
  have before := (sameTexts_showWord catalogue mayQuote cell).ended ended
  have kept := trans_of (State.SameTexts catalogue) before same
  unfold showWord at ended ⊢
  rw [run_bind_ok (run_state state)] at ended
  rw [run_bind_ok (run_state final), kept.resolution?, kept.tables]
  cases plain : state.resolution? catalogue cell with
  | some resolution =>
      simp only [plain, run_ofResult] at ended ⊢
      rw [(Prod.mk.inj ended).1]
  | none =>
      simp only [plain] at ended ⊢
      obtain ⟨found, between, read, shown⟩ := between_of_bind ended
      cases shown
      have stored := same.stored (text_stored catalogue read)
      rw [run_bind_ok (run_text_of_stored catalogue stored)]
      rfl

theorem run_showWords_again {printed : List (CellRef Data)} {quoteFirst : Bool}
    {texts : List String}
    (ended : (showWords catalogue quoteFirst printed).run state = (.ok texts, later))
    (same : later.SameTexts catalogue final) :
    (showWords catalogue quoteFirst printed).run final = (.ok texts, final) := by
  induction printed generalizing quoteFirst state texts with
  | nil =>
      cases ended
      rfl
  | cons first rest inductionHypothesis =>
      obtain ⟨word, between, shown, ended⟩ := between_of_bind ended
      obtain ⟨words, last, printed, ended⟩ := between_of_bind ended
      cases ended
      have after := (relates_shownWords (sameTexts_showWord catalogue) true rest).ended printed
      have again := run_showWord_again shown (trans_of (State.SameTexts catalogue) after same)
      rw [showWords, run_bind_ok again, run_bind_ok (inductionHypothesis printed)]
      rfl

theorem run_usageText_again {printed : List (CellRef Data)} {options : UsageOptions Data}
    {line : String} (ended : (usageText catalogue printed options).run state = (.ok line, later)) :
    (usageText catalogue printed options).run later = (.ok line, later) := by
  unfold usageText at ended ⊢
  obtain ⟨texts, between, shown, ended⟩ := between_of_bind ended
  cases ended
  rw [run_bind_ok (run_showWords_again shown (refl_of (State.SameTexts catalogue) later))]
  rfl

end again

end Action

/-- A report writes its line where it was printed, and nothing where it was not. -/
theorem Action.undisturbed_reportUsage (catalogue : Catalogue Data) (state : State Data)
    (interpreter : InterpreterRef Data) (count : Number) (words : List (CellRef Data))
    (message : Option String) :
    let run := (reportUsage catalogue interpreter count words message).run state
    let current := state.interpreters.get interpreter
    state.Undisturbed catalogue
        (Dispatch.undoAny current.dispatch (firstWords count words)) run.2 ∧
      ∀ fault, run.1 = .error fault → run.2.interpreters = state.interpreters := by
  intro run current
  have prints : State.Prints catalogue _ state _ _ :=
    prints_usageText (firstWords count words) (state.usageOptions interpreter message) _ _ _
      .nothing
  have reported : run = _ := run_reportUsage catalogue interpreter count words message state
  rw [run_bind] at reported
  generalize (usageText catalogue _ _).run state = ended at prints reported
  obtain ⟨ending, later⟩ := ended
  have before : state.Undisturbed catalogue _ later := prints.undisturbed
  cases ending with
  | error fault =>
      have failed : run = (.error fault, later) := reported
      rw [failed]
      exact ⟨before, fun _ _ => prints.interpreters⟩
  | ok line =>
      have written : run = (.ok (), later.updateInterpreter interpreter fun current =>
        { current with result := line }) := reported
      rw [written]
      exact ⟨{ before with }, nofun⟩

/-- Printing a word, a usage line or a report asks at most for missing texts, and for each of them
once at most. What was printed once is printed again. A report that cannot be printed leaves the
interpreters as they were. -/
theorem printing_undisturbed (catalogue : Catalogue Data) (state : State Data) :
    (∀ mayQuote cell,
      let run := (Action.showWord catalogue mayQuote cell).run state
      state.Undisturbed catalogue [cell] run.2 ∧ run.2.interpreters = state.interpreters ∧
        ∀ word, run.1 = .ok word →
          (Action.showWord catalogue mayQuote cell).run run.2 = (.ok word, run.2)) ∧
    (∀ words options,
      let run := (Action.usageText catalogue words options).run state
      state.Undisturbed catalogue (Dispatch.undoAny options.dispatch words) run.2 ∧
        run.2.interpreters = state.interpreters ∧
          ∀ line, run.1 = .ok line →
            (Action.usageText catalogue words options).run run.2 = (.ok line, run.2)) ∧
    (∀ interpreter count words message,
      let run := (Action.reportUsage catalogue interpreter count words message).run state
      let current := state.interpreters.get interpreter
      let printed := Dispatch.undoAny current.dispatch (Action.firstWords count words)
      state.Undisturbed catalogue printed run.2 ∧
        ∀ fault, run.1 = .error fault → run.2.interpreters = state.interpreters) := by
  have nothing {words : List (CellRef Data)} :
      State.Regenerated catalogue words state [] state := .nothing
  refine ⟨?_, ?_, ?_⟩
  · intro mayQuote cell run
    have prints : State.Prints catalogue [cell] state run.1 run.2 :=
      Action.prints_showWord (List.mem_singleton_self cell) mayQuote _ _ _ nothing
    refine ⟨prints.undisturbed, prints.interpreters, ?_⟩
    intro word shown
    have ended : run = (.ok word, run.2) := Prod.ext shown rfl
    exact Action.run_showWord_again ended (refl_of (State.SameTexts catalogue) run.2)
  · intro words options run
    have prints : State.Prints catalogue _ state run.1 run.2 :=
      Action.prints_usageText words options _ _ _ nothing
    refine ⟨prints.undisturbed, prints.interpreters, ?_⟩
    intro line shown
    have ended : run = (.ok line, run.2) := Prod.ext shown rfl
    exact Action.run_usageText_again ended
  · intro interpreter count words message
    exact Action.undisturbed_reportUsage catalogue state interpreter count words message

/-- The text of a word is regenerated once for two places, and that of another word is refused. -/
theorem printing_undisturbed_refused :
    let catalogue : Catalogue Unit :=
      { custom := fun number =>
          { Catalogue.inert.custom number with
            regenerate := fun _ _ =>
              if number = 1 then .error (.raised "busy") else .ok "start" } }
    let state := session catalogue
      [.addInterpreter .standard, .ofPayload (.custom 1) (.existing (.plain ())),
        .ofPayload (.custom 0) (.existing (.plain ()))]
    let run := (Action.reportUsage catalogue ⟨0⟩ 3 [⟨0⟩, ⟨0⟩, ⟨1⟩] none).run state
    let again := (Action.showWord catalogue true ⟨0⟩).run run.2
    run.1 = .error (.raised "busy") ∧ run.2.calls.length = 2 ∧
      run.2.interpreters = state.interpreters ∧ again.1 = .ok "start" ∧
        (Action.showWord catalogue true ⟨0⟩).run again.2 = (.ok "start", again.2) := by
  intro catalogue state
  have reports := (printing_undisturbed catalogue state).2.2 ⟨0⟩ 3 [⟨0⟩, ⟨0⟩, ⟨1⟩] none
  generalize ended : (Action.reportUsage catalogue ⟨0⟩ 3 [⟨0⟩, ⟨0⟩, ⟨1⟩] none).run state = run
    at reports ⊢
  intro _ again
  have failed : run.1 = .error (.raised "busy") := by
    rw [← ended]
    decide +kernel
  have called : run.2.calls.length = 2 := by
    rw [← ended]
    decide +kernel
  have printed : again.1 = .ok "start" := by
    show ((Action.showWord catalogue true ⟨0⟩).run run.2).1 = .ok "start"
    rw [← ended]
    decide +kernel
  have repeated := (printing_undisturbed catalogue run.2).1 true ⟨0⟩
  exact ⟨failed, called, reports.2 _ failed, printed, repeated.2.2 "start" printed⟩

end CommandWords
