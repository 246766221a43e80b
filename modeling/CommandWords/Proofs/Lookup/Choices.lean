/-
This file reads the choices back from the message about a value that fits none of them. They are
kept apart by spaces, so the message tells all choices without a space, in their order.
-/

import CommandWords.Proofs.Lookup.Reference
import Mathlib.Data.List.Infix

namespace CommandWords.Message

/-- The words of three or more choices. A comma ends all of them but the last two. -/
def enumerated : List String → List (List Char)
  | [] => []
  | [last] => ["or".toList, last.toList]
  | choice :: rest => (choice.toList ++ [',']) :: enumerated rest

/-- The words that are written for choices. -/
def words : List String → List (List Char)
  | [only] => [only.toList]
  | [first, second] => [first.toList, "or".toList, second.toList]
  | many => enumerated many

/-- The choices that were enumerated. -/
def ofEnumerated : List (List Char) → List String
  | word :: next :: last :: rest =>
      String.ofList word.dropLast :: ofEnumerated (next :: last :: rest)
  | [_, last] => [String.ofList last]
  | _ => []

/-- The choices that words were written for. One word stands for one choice, three words for two,
and more words for an enumeration. -/
def ofWords : List (List Char) → List String
  | [only] => [String.ofList only]
  | [first, _, second] => [String.ofList first, String.ofList second]
  | many => ofEnumerated many

theorem exists_enumerated (choice : String) (rest : List String) :
    ∃ word next others, enumerated (choice :: rest) = word :: next :: others := by
  induction rest generalizing choice with
  | nil => exact ⟨_, _, _, rfl⟩
  | cons following rest inductionHypothesis =>
      obtain ⟨word, next, others, enumeration⟩ := inductionHypothesis following
      exact ⟨_, word, next :: others, by rw [enumerated, enumeration]; exact List.cons_ne_nil _ _⟩

theorem ofEnumerated_enumerated (options : List String) :
    ofEnumerated (enumerated options) = options := by
  fun_induction enumerated options with
  | case1 => rfl
  | case2 last => rw [ofEnumerated, String.ofList_toList]
  | case3 choice rest several inductionHypothesis =>
      obtain ⟨following, rest, rfl⟩ := List.exists_cons_of_ne_nil several
      obtain ⟨word, next, others, enumeration⟩ := exists_enumerated following rest
      rw [enumeration] at inductionHypothesis ⊢
      rw [ofEnumerated, inductionHypothesis, List.dropLast_concat, String.ofList_toList]

theorem ofWords_words (options : List String) : ofWords (words options) = options := by
  match options with
  | [] => rfl
  | [only] => rw [words, ofWords, String.ofList_toList]
  | [first, second] => rw [words, ofWords, String.ofList_toList, String.ofList_toList]
  | first :: second :: third :: rest =>
      obtain ⟨word, next, others, enumeration⟩ := exists_enumerated third rest
      let many := first :: second :: third :: rest
      have long : enumerated many =
          (first.toList ++ [',']) :: (second.toList ++ [',']) :: word :: next :: others := by
        rw [← enumeration]
        rfl
      have written : words many = enumerated many := rfl
      calc ofWords (words many) = ofEnumerated (enumerated many) := by
            rw [written, long]
            rfl
        _ = many := ofEnumerated_enumerated many

theorem toList_enumeration {options : List String} (nonempty : options ≠ []) :
    (", ".intercalate (chosenFrom options)).toList = [' '].intercalate (enumerated options) := by
  rw [String.toList_intercalate]
  fun_induction chosenFrom options with
  | case1 => exact absurd rfl nonempty
  | case2 last => simp [enumerated]
  | case3 choice rest several inductionHypothesis =>
      obtain ⟨following, rest, rfl⟩ := List.exists_cons_of_ne_nil several
      obtain ⟨word, next, others, enumeration⟩ := exists_enumerated following rest
      have chosen : (chosenFrom (following :: rest)).map String.toList ≠ [] := by
        cases rest <;> simp [chosenFrom]
      have written : enumerated (following :: rest) ≠ [] := by simp [enumeration]
      rw [enumerated, List.map_cons, List.intercalate_cons_of_ne_nil chosen,
        List.intercalate_cons_of_ne_nil written, inductionHypothesis several]
      · simp
      · exact several

theorem toList_choices {options : List String} (nonempty : options ≠ []) :
    (choices options).toList = [' '].intercalate (words options) := by
  match options with
  | [only] => simp [choices, words]
  | [first, second] => simp [choices, words]
  | first :: second :: third :: rest => exact toList_enumeration nonempty

/-- No choice holds a space. -/
def Unspaced (options : List String) : Prop := ∀ option ∈ options, ' ' ∉ option.toList

instance (options : List String) : Decidable (Unspaced options) := List.decidableBAll _ options

theorem unspaced_enumerated {options : List String} (unspaced : Unspaced options) :
    ∀ word ∈ enumerated options, ' ' ∉ word := by
  unfold Unspaced at unspaced
  fun_induction enumerated options with
  | case1 => simp
  | case2 last => simpa using unspaced
  | case3 choice rest several inductionHypothesis =>
      obtain ⟨first, others⟩ := List.forall_mem_cons.mp unspaced
      exact List.forall_mem_cons.mpr ⟨by simpa using first, inductionHypothesis others⟩

theorem unspaced_words {options : List String} (unspaced : Unspaced options) :
    ∀ word ∈ words options, ' ' ∉ word := by
  unfold words
  split
  next only => simpa [Unspaced] using unspaced
  next first second => simpa [Unspaced] using unspaced
  next => exact unspaced_enumerated unspaced

def readChoices (text : List Char) : List String := ofWords (text.splitOn ' ')

theorem readChoices_choices {options : List String} (nonempty : options ≠ [])
    (unspaced : Unspaced options) : readChoices (choices options).toList = options := by
  have written : words options ≠ [] := by
    intro nothing
    exact nonempty ((ofWords_words options).symm.trans (by rw [nothing]; rfl))
  rw [readChoices, toList_choices nonempty,
    List.splitOn_intercalate ' ' (unspaced_words unspaced) written, ofWords_words]

/-- What a message says before its choices. -/
def Misfit.head (misfit : Misfit) (label value : String) : String :=
  misfit.word ++ " " ++ label ++ " \"" ++ value ++ "\": "

def readOffer? (offer : List Char) : Option (List String) :=
  match offer.dropPrefix? "must be ".toList with
  | some chosen => some (readChoices chosen)
  | none => if offer = "no valid options".toList then some [] else none

/-- The choices of a message about a known label and a known value that begins as for a misfit. -/
def readAs? (misfit : Misfit) (label value message : String) : Option (List String) :=
  (message.toList.dropPrefix? (misfit.head label value).toList).bind readOffer?

/-- The misfit and the choices of a message about a known label and a known value. -/
def read? (label value message : String) : Option (Misfit × List String) :=
  [Misfit.bad, .ambiguous].findSome? fun misfit =>
    (readAs? misfit label value message).map fun options => (misfit, options)

theorem dropPrefix?_append (front rest : List Char) :
    (front ++ rest).dropPrefix? front = some rest :=
  List.dropPrefix?_append_of_beq rest (beq_self_eq_true front)

theorem readOffer?_badValue {options : List String} (unspaced : Unspaced options) :
    readOffer? (if options = [] then "no valid options"
      else "must be " ++ choices options).toList = some options := by
  split
  next empty =>
    rw [empty]
    rfl
  next nonempty =>
    rw [readOffer?, String.toList_append, dropPrefix?_append]
    exact congrArg some (readChoices_choices nonempty unspaced)

theorem toList_badValue (misfit : Misfit) (label value : String) (options : List String) :
    (badValue misfit label value options).toList = (misfit.head label value).toList ++
      (if options = [] then "no valid options" else "must be " ++ choices options).toList := by
  rw [badValue_eq, ← String.toList_append, Misfit.head]

theorem readAs?_badValue (misfit : Misfit) (label value : String) {options : List String}
    (unspaced : Unspaced options) :
    readAs? misfit label value (badValue misfit label value options) = some options := by
  rw [readAs?, toList_badValue, dropPrefix?_append, Option.bind_some, readOffer?_badValue unspaced]

/-- The messages of the misfits begin with different letters. -/
theorem readAs?_bad_ambiguous (label value : String) (options : List String) :
    readAs? .bad label value (badValue .ambiguous label value options) = none := by
  rw [readAs?, toList_badValue]
  simp [Misfit.head, Misfit.word, List.dropPrefix?]

theorem read?_badValue (misfit : Misfit) (label value : String) {options : List String}
    (unspaced : Unspaced options) :
    read? label value (badValue misfit label value options) = some (misfit, options) := by
  have told := readAs?_badValue misfit label value unspaced
  cases misfit with
  | bad =>
      rw [read?, List.findSome?_cons, told]
      rfl
  | ambiguous =>
      rw [read?, List.findSome?_cons, readAs?_bad_ambiguous, List.findSome?_cons, told]
      rfl

/-- A message about a label and a value tells its misfit and all its choices, in their order and
with their repetitions, if no choice holds a space. The message of a lookup that finds its table
well formed and fails tells all keywords of the table in this way. -/
theorem badValue_tells_choices {Data : Type} (catalogue : Catalogue Data) (label value : String) :
    (∀ (misfit other : Misfit) (options others : List String), Unspaced options →
        Unspaced others → badValue misfit label value options = badValue other label value others →
          misfit = other ∧ options = others) ∧
      ∀ (question : Question Data) (state later : State Data) (failure : Failure Diagnostic)
        (cost : Effort),
        (question.ask catalogue).run state = (.ok (.fail failure cost), later) →
          failure.reason ≠ .invariantViolated →
            ∃ keywords key,
              (state.tables.get question.table).keywords question.stride = .done keywords .unknown ∧
                ((Action.text catalogue question.cell).run state).1 = .ok key ∧
                  (Unspaced keywords → ∃ misfit : Misfit, failure.reason = misfit.reason ∧
                    read? question.label key failure.message = some (misfit, keywords)) := by
  constructor
  · intro misfit other options others unspaced othersUnspaced same
    have told := read?_badValue misfit label value unspaced
    rw [same, read?_badValue other label value othersUnspaced] at told
    cases told
    exact ⟨rfl, rfl⟩
  · intro question state later failure cost ended wellFormed
    obtain ⟨keywords, key, reading, reads, unresolved, refused, _⟩ :=
      Question.refused_of_fail ended wellFormed
    obtain ⟨_, formed⟩ := reads.formed
    obtain rfl := (Table.keywords_eq_done_iff.mp formed).1
    obtain ⟨_, failed, reason, message⟩ :=
      (Scan.run key keywords).refusal_eq question.label key keywords
    rw [← refused] at failed
    cases failed
    refine ⟨keywords, key, formed, congrArg Prod.fst reads.ended, fun unspaced => ?_⟩
    exact ⟨_, reason, by rw [message, read?_badValue _ _ _ unspaced]⟩

/-- The choices are the word before the last choice, twice, and a word that begins with it. -/
theorem badValue_tells_choices_or :
    let state := session .inert [.ofText "o", .addTable (.ofKeywords ["or", "or", "order"])]
    let question : Question Unit := ⟨⟨0⟩, ⟨0⟩, 1, "option", false⟩
    badValue .bad "option" "o" ["or", "or"] ≠ badValue .bad "option" "o" ["or", "or", "or"] ∧
      ∃ failure cost later,
        (question.ask .inert).run state = (.ok (.fail failure cost), later) ∧
          failure.reason = .ambiguous ∧
            read? "option" "o" failure.message = some (.ambiguous, ["or", "or", "order"]) := by
  intro state question
  have formed : (state.tables.get question.table).keywords question.stride =
      .done ["or", "or", "order"] .unknown := Table.keywords_of_result (by decide +kernel)
  have read : ((Action.text .inert question.cell).run state).1 = .ok "o" := rfl
  have stored : state.cells.get question.cell = ⟨some "o", none⟩ := rfl
  obtain ⟨failure, later, ended, _, reason⟩ :=
    Question.run_ask_refused stored formed (by decide +kernel)
  have ambiguous : failure.reason = .ambiguous := reason.trans (by decide +kernel)
  obtain ⟨injective, telling⟩ := badValue_tells_choices Catalogue.inert "option" "o"
  refine ⟨fun same => ?_, ?_⟩
  · cases (injective _ _ _ _ (by decide) (by decide) same).2
  · obtain ⟨keywords, key, known, shown, told⟩ :=
      telling question state later failure _ ended (by simp [ambiguous])
    cases known.symm.trans formed
    cases shown.symm.trans read
    obtain ⟨misfit, same, told⟩ := told (by decide)
    cases misfit with
    | bad => cases same.symm.trans ambiguous
    | ambiguous => exact ⟨failure, _, later, ended, ambiguous, told⟩

end CommandWords.Message
