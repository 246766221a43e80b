/-
This file shows that a usage line tells which words it was made of. A reader of lists takes the
line apart into the full keywords and the texts of the cells.
-/

import CommandWords.Proofs.Session.KeptText
import CommandWords.Proofs.Words.RoundTrip

namespace CommandWords

variable {Data : Type} {catalogue : Catalogue Data}

namespace State

/-- In the memory nothing is new but texts that were missing, and these were shown before. -/
structure SameTexts (catalogue : Catalogue Data) (first second : State Data) : Prop where
  tables : second.tables = first.tables
  objects : second.objects = first.objects
  representation : ∀ cell,
    (second.cells.get cell).representation = (first.cells.get cell).representation
  stored : ∀ {cell text}, (first.cells.get cell).text = some text →
    (second.cells.get cell).text = some text
  shown : ∀ {cell text}, second.Shows catalogue cell text → first.Shows catalogue cell text

instance : IsPreorder (State Data) (SameTexts catalogue) where
  refl _ := ⟨rfl, rfl, fun _ => rfl, id, id⟩
  trans _ _ _ before after :=
    ⟨after.tables.trans before.tables, after.objects.trans before.objects,
      fun cell => (after.representation cell).trans (before.representation cell),
      after.stored ∘ before.stored, before.shown ∘ after.shown⟩

/-- The cell stands for a keyword that needs no quotes, if it stands for one at all. -/
def PlainKeyword (catalogue : Catalogue Data) (state : State Data) (cell : CellRef Data) : Prop :=
  ∀ resolution ∈ state.resolution? catalogue cell,
    (resolution.expand state.tables).map ListElement.needsQuotes = .ok false

instance (state : State Data) (cell : CellRef Data) :
    Decidable (state.PlainKeyword catalogue cell) :=
  inferInstanceAs (Decidable (∀ resolution ∈ state.resolution? catalogue cell,
    (resolution.expand state.tables).map ListElement.needsQuotes = .ok false))

/-- A cell that was looked up is displayed by its full keyword, and any other cell by its text. This
is the text that everyone reads afterwards. -/
inductive Displays (catalogue : Catalogue Data) (state later : State Data) (cell : CellRef Data)
    (word : String) : Prop
  | keyword {resolution : Resolution}
      (kept : state.resolution? catalogue cell = some resolution)
      (expanded : resolution.expand state.tables = .ok word)
  | text (unkept : state.resolution? catalogue cell = none)
      (shows : state.Shows catalogue cell word)
      (read : (Action.text catalogue cell).run later = (.ok word, later))

variable {first second third : State Data} {cell : CellRef Data} {word other : String}

theorem SameTexts.of_same (same : first.SameMemory second) : first.SameTexts catalogue second where
  tables := same.tables
  objects := same.objects
  representation _ := by rw [same.cells]
  stored found := by rw [same.cells, found]
  shown shows := shows.of_same ⟨same.tables.symm, same.objects.symm, same.cells.symm⟩

/-- A text that is regenerated was shown before it was stored. -/
theorem SameTexts.regenerated {representation : Representation Data}
    (missing : (first.cells.get cell).text = none)
    (held : (first.cells.get cell).representation = some representation)
    (made : first.Regenerates catalogue representation word) :
    first.SameTexts catalogue (first.setText cell (some word)) where
  tables := rfl
  objects := rfl
  representation changed := representation_setText first cell changed (some word)
  stored {changed text} found := by
    have different : changed ≠ cell := by
      rintro rfl
      cases missing.symm.trans found
    rw [get_setText_other first cell different, found]
  shown {changed text} shows := by
    by_cases equal : changed = cell
    · subst equal
      cases shows with
      | stored found =>
          obtain rfl : word = text := by simpa using found
          obtain ⟨calls, written⟩ := made
          exact .written missing held ⟨⟨first.tables, calls⟩, fun _ => rfl, written⟩
      | written missing held writes => simp at missing
    · exact shows.of_cell (get_setText_other first cell equal _).symm (fun _ _ => rfl) rfl

theorem SameTexts.resolution? (same : first.SameTexts catalogue second) (cell : CellRef Data) :
    second.resolution? catalogue cell = first.resolution? catalogue cell :=
  resolution?_of_objects (same.representation cell) same.objects

theorem PlainKeyword.of_same (same : first.SameTexts catalogue second)
    (plain : first.PlainKeyword catalogue cell) : second.PlainKeyword catalogue cell := by
  intro resolution kept
  rw [same.resolution?] at kept
  rw [same.tables]
  exact plain resolution kept

theorem Displays.after (displays : first.Displays catalogue second cell word)
    (same : second.SameTexts catalogue third) : first.Displays catalogue third cell word := by
  cases displays with
  | keyword kept expanded => exact .keyword kept expanded
  | text unkept shows read =>
      have stored := same.stored (Action.text_stored catalogue read)
      exact .text unkept shows (Action.run_text_of_stored catalogue stored)

theorem Displays.before (same : first.SameTexts catalogue second)
    (displays : second.Displays catalogue third cell word) :
    first.Displays catalogue third cell word := by
  cases displays with
  | keyword kept expanded =>
      rw [same.resolution?] at kept
      rw [same.tables] at expanded
      exact .keyword kept expanded
  | text unkept shows read =>
      rw [same.resolution?] at unkept
      exact .text unkept (same.shown shows) read

theorem displays_unique :
    Relator.RightUnique (first.Displays catalogue second) := by
  intro cell word other displays another
  cases displays with
  | keyword kept expanded =>
      cases another with
      | keyword keptToo expandedToo =>
          obtain rfl := Option.some.inj (kept.symm.trans keptToo)
          exact Except.ok.inj (expanded.symm.trans expandedToo)
      | text unkept shows read => cases kept.symm.trans unkept
  | text unkept shows read =>
      cases another with
      | keyword kept expanded => cases kept.symm.trans unkept
      | text unkeptToo showsToo readToo =>
          exact Except.ok.inj (congrArg Prod.fst (read.symm.trans readToo))

end State

namespace Action

open ListElement (ReadsAs)

variable (catalogue)

/-- Reading a text stores it at most, and then it is the text of its type. -/
theorem sameTexts_text (cell : CellRef Data) :
    (text catalogue cell).Relates (State.SameTexts catalogue) := by
  intro present
  have read := text_run catalogue cell present
  generalize (text catalogue cell).run present = ended at read ⊢
  obtain ⟨ending, later⟩ := ended
  cases read with
  | stored found => exact refl_of (State.SameTexts catalogue) _
  | formless missing bare => exact refl_of (State.SameTexts catalogue) _
  | refused missing held failed same => exact .of_same same
  | regenerated missing held made same =>
      exact trans_of (State.SameTexts catalogue) (.regenerated missing held made) (.of_same same)

theorem sameTexts_showWord (mayQuote : Bool) (cell : CellRef Data) :
    (showWord catalogue mayQuote cell).Relates (State.SameTexts catalogue) :=
  relates_shownWord (sameTexts_text catalogue) mayQuote cell

/-- Every cell in turn can be printed. -/
def printsAll : List (CellRef Data) → State Data → Bool
  | [], _ => true
  | cell :: rest, state =>
      let ended := (showWord catalogue true cell).run state
      ended.1.isOk && printsAll rest ended.2

variable {catalogue} {present later : State Data}

/-- A keyword is read back from itself, and a text from its quoted form. -/
theorem readsAs_showWord {cell : CellRef Data} {printed : String}
    (plain : present.PlainKeyword catalogue cell)
    (ended : (showWord catalogue true cell).run present = (.ok printed, later)) :
    ∃ word, present.Displays catalogue later cell word ∧
      ReadsAs printed.toList word.toList := by
  unfold showWord at ended
  rw [run_bind_ok (run_state present)] at ended
  cases kept : present.resolution? catalogue cell with
  | some resolution =>
      have unquoted := plain resolution kept
      simp only [kept, run_ofResult] at ended
      obtain ⟨expanded, rfl⟩ := Prod.mk.inj ended
      rw [expanded] at unquoted
      have bare : ListElement.needsQuotes printed = false := Except.ok.inj unquoted
      exact ⟨printed, .keyword kept expanded, ListElement.readsAs_plain bare⟩
  | none =>
      simp only [kept] at ended
      obtain ⟨word, between, read, written⟩ := between_of_bind ended
      cases written
      have stored := text_stored catalogue read
      have same := (sameTexts_text catalogue cell).ended read
      refine ⟨word, .text kept (same.shown (.stored stored)) (run_text_of_stored catalogue stored),
        ?_⟩
      simpa [ListElement.quote] using ListElement.readsAs_quoteCharacters word.toList

/-- Later words change nothing of what an earlier word displays, and the other way round. -/
theorem readsAs_showWords {cells : List (CellRef Data)}
    (prints : printsAll catalogue cells present = true)
    (plain : ∀ cell ∈ cells, present.PlainKeyword catalogue cell) :
    ∃ printed later words, (showWords catalogue true cells).run present = (.ok printed, later) ∧
      List.Forall₂ (present.Displays catalogue later) cells words ∧
        List.Forall₂ (fun shown word => ReadsAs shown.toList word.toList) printed words := by
  induction cells generalizing present with
  | nil => exact ⟨[], present, [], rfl, .nil, .nil⟩
  | cons first rest inductionHypothesis =>
      obtain ⟨plain, others⟩ := List.forall_mem_cons.mp plain
      simp only [printsAll, Bool.and_eq_true] at prints
      obtain ⟨succeeds, prints⟩ := prints
      cases ended : (showWord catalogue true first).run present with
      | mk ending between =>
          rw [ended] at succeeds prints
          cases ending with
          | error fault => cases succeeds
          | ok shown =>
              have before := (sameTexts_showWord catalogue true first).ended ended
              obtain ⟨word, displays, reads⟩ := readsAs_showWord plain ended
              obtain ⟨printed, later, words, run, all, readAll⟩ :=
                inductionHypothesis prints fun cell member => (others cell member).of_same before
              have after := (relates_shownWords (sameTexts_showWord catalogue) true rest).ended run
              refine ⟨shown :: printed, later, word :: words, ?_,
                .cons (displays.after after) (all.imp fun _ _ => .before before),
                .cons reads readAll⟩
              rw [showWords, run_bind_ok ended, run_bind_ok run]
              rfl

end Action

/-- A message has one line. -/
theorem Message.usage_injective {line other : String}
    (same : Message.usage line none = Message.usage other none) : line = other :=
  (String.append_right_inj _).mp ((String.append_left_inj _).mp same)

/-- The words of a command are reported with nothing around them. -/
structure UsageCall (Data : Type) where
  catalogue : Catalogue Data
  before : State Data
  words : List (CellRef Data)
  dispatch : Option (Dispatch (CellRef Data))

namespace UsageCall

variable (call : UsageCall Data)

/-- The cells that the user typed. -/
def cells : List (CellRef Data) := Dispatch.undoAny call.dispatch call.words

def options : UsageOptions Data := { (.plain : UsageOptions Data) with dispatch := call.dispatch }

def wording : Action Data String := Action.usageText call.catalogue call.words call.options

def ending : Except Fault String := (call.wording.run call.before).1

def after : State Data := (call.wording.run call.before).2

/-- These words are on display, one for each cell. -/
def Displays (words : List String) : Prop :=
  List.Forall₂ (call.before.Displays call.catalogue call.after) call.cells words

/-- Every cell can be printed, and no keyword among them needs quotes. -/
structure Readable : Prop where
  prints : Action.printsAll call.catalogue call.cells call.before = true
  plain : ∀ cell ∈ call.cells, call.before.PlainKeyword call.catalogue cell

variable {call} {other : UsageCall Data}

theorem Displays.unique {words shown : List String} (displays : call.Displays words)
    (another : call.Displays shown) : words = shown :=
  List.right_unique_forall₂' State.displays_unique displays another

theorem Readable.exists_line (readable : call.Readable) :
    ∃ line words, call.ending = .ok ("wrong # args: should be \"" ++ line ++ "\"") ∧
      ListReader.read line = some words ∧ call.Displays words := by
  obtain ⟨printed, later, words, run, displayed, reads⟩ :=
    Action.readsAs_showWords readable.prints readable.plain
  have ended : call.wording.run call.before =
      (.ok (Message.usage (" ".intercalate (printed ++ [])) none), later) := by
    exact Action.run_bind_ok run _
  have after : call.after = later := congrArg Prod.snd ended
  refine ⟨" ".intercalate printed, words, ?_, ListElement.read_intercalate reads, ?_⟩
  · rw [List.append_nil] at ended
    exact congrArg Prod.fst ended
  · rw [Displays, after]
    exact displayed

end UsageCall

/-- A usage line is read back as what is on display, which is one word for each cell. Calls with the
same message have the same words on display. -/
theorem usage_line_reads_back {call : UsageCall Data} (readable : call.Readable) :
    ∃ line words, call.ending = .ok ("wrong # args: should be \"" ++ line ++ "\"") ∧
      ListReader.read line = some words ∧ call.Displays words ∧
        ∀ other : UsageCall Data, other.Readable → other.ending = call.ending →
          ∀ shown, other.Displays shown ↔ shown = words := by
  obtain ⟨line, words, ended, read, displays⟩ := readable.exists_line
  refine ⟨line, words, ended, read, displays, fun other readableToo same shown => ?_⟩
  obtain ⟨lineToo, wordsToo, endedToo, readToo, displaysToo⟩ := readableToo.exists_line
  -- The same message has the same line, and so it is read back as the same words.
  have message := Except.ok.inj (endedToo.symm.trans (same.trans ended))
  obtain rfl : lineToo = line := Message.usage_injective message
  obtain rfl : wordsToo = words := Option.some.inj (readToo.symm.trans read)
  constructor
  · exact fun shows => shows.unique displaysToo
  · rintro rfl
    exact displaysToo

/-- A dispatched command with an abbreviated keyword, an empty word and an open brace, and the same
words as plain texts. -/
theorem usage_line_reads_back_dispatched :
    let past : List (Operation Unit) := [.lookup ⟨⟨1⟩, ⟨0⟩, 1, "option", false⟩,
      .ofText "a \x7bb", .ofText "", .ofText "sta", .ofText "do it",
      .addTable (.ofKeywords ["start", "stop"])]
    let texts : List (Operation Unit) :=
      [.ofText "a \x7bb", .ofText "", .ofText "start", .ofText "do it"]
    let call : UsageCall Unit :=
      ⟨.inert, session .inert past, [⟨1⟩, ⟨2⟩, ⟨3⟩], some ⟨[⟨0⟩, ⟨1⟩], 2, 1⟩⟩
    let other : UsageCall Unit := ⟨.inert, session .inert texts, [⟨0⟩, ⟨1⟩, ⟨2⟩, ⟨3⟩], none⟩
    let words := ["do it", "start", "", "a \x7bb"]
    call.Readable ∧ other.Readable ∧ other.ending = call.ending ∧
      call.ending =
        .ok "wrong # args: should be \"\x7bdo it\x7d start \x7b\x7d a\\ \\\x7bb\"" ∧
        call.Displays words ∧ other.Displays words := by
  intro past texts call other words
  have readable : call.Readable := ⟨by decide +kernel, by decide +kernel⟩
  have readableToo : other.Readable := ⟨by decide +kernel, by decide +kernel⟩
  have same : other.ending = call.ending := by decide +kernel
  have ending : call.ending =
      .ok "wrong # args: should be \"\x7bdo it\x7d start \x7b\x7d a\\ \\\x7bb\"" := by
    decide +kernel
  obtain ⟨line, shown, ended, read, displays, alike⟩ := usage_line_reads_back readable
  have message := Except.ok.inj (ended.symm.trans ending)
  obtain rfl : line = "\x7bdo it\x7d start \x7b\x7d a\\ \\\x7bb" :=
    Message.usage_injective message
  obtain rfl : shown = words := Option.some.inj (read.symm.trans (by decide +kernel))
  exact ⟨readable, readableToo, same, ending, displays, (alike other readableToo same _).mpr rfl⟩

end CommandWords
