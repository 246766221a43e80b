/-
This file says when diagnostics quote the texts of the user as they are. A text is quoted unless it
holds a reference, and a label that holds the placeholder of the value takes the value in.
-/

import CommandWords.Proofs.Lookup.Reference
import CommandWords.Proofs.Outcome.Templates

namespace CommandWords

namespace Parameter

variable {parameters : Fields Parameter}

theorem arrange_of_words (words : ∀ field ∈ parameters, position? field.1 = none) :
    arrange parameters = parameters := by
  obtain ⟨positioned, arranged, given⟩ := exists_arrange parameters
  have none : positioned = [] := by
    refine List.eq_nil_iff_forall_not_mem.mpr fun field member => ?_
    exact (given field member).2 (words field (given field member).1)
  rw [arranged, none, List.nil_append, List.filter_eq_self]
  intro field member
  rw [words field member]
  rfl

end Parameter

/-- Parameters whose names are words are kept and filled in one after another. -/
theorem Problem.diagnose_of_words (problem : Problem) (parameters : Fields Parameter)
    (words : ∀ name ∈ parameters.map Prod.fst, name.toList.all Char.isDigit = false) :
    problem.diagnose (some parameters) =
      ⟨problem.code, problem.severity, Parameter.fill problem.template parameters,
        some (parameters.map fun field => (field.1, field.2.toJson)), none⟩ := by
  have arranged : Parameter.arrange parameters = parameters :=
    Parameter.arrange_of_words fun _ member =>
      Parameter.position?_eq_none (words _ (List.mem_map_of_mem member))
  simp only [diagnose, Option.map_some, Option.getD_some, arranged]

theorem Problem.diagnose_lookupFields (problem : Problem) (label value : String) :
    problem.diagnose (some (Outcome.lookupFields label value)) =
      ⟨problem.code, problem.severity,
        Parameter.fill problem.template (Outcome.lookupFields label value),
        some [("label", .text label), ("value", .text value)], none⟩ := by
  have words : ∀ name ∈ ["label", "value"], name.toList.all Char.isDigit = false := by decide
  exact problem.diagnose_of_words (Outcome.lookupFields label value) words

namespace Message.Misfit

def problem : Misfit → Problem
  | bad => .badValue
  | ambiguous => .ambiguousValue

/-- What a diagnostic says before the label. -/
def opening : Misfit → String
  | bad => "Bad "
  | ambiguous => "Ambiguous "

/-- The placeholder of the label. -/
def labelMark : List Char := (Piece.blank "label").written

/-- The placeholder of the value. -/
def valueMark : List Char := (Piece.blank "value").written

theorem opens_labelMark : labelMark = '\x7b' :: ("label".toList ++ ['\x7d']) :=
  Piece.written_blank "label"

theorem opens_valueMark : valueMark = '\x7b' :: ("value".toList ++ ['\x7d']) :=
  Piece.written_blank "value"

/-- What stands behind the label in a template. -/
def closing : List Char := ':' :: ' ' :: valueMark

theorem template_problem (misfit : Misfit) :
    misfit.problem.template.toList = misfit.opening.toList ++ (labelMark ++ closing) := by
  cases misfit <;> decide

theorem braceless_opening (misfit : Misfit) : '\x7b' ∉ misfit.opening.toList := by
  cases misfit <;> decide

/-- The diagnostic of a label and a value that do not fit. -/
def note (misfit : Misfit) (label value : String) : String :=
  (misfit.problem.diagnose (some (Outcome.lookupFields label value))).message

variable (misfit : Misfit) (label value : String)

/-- The label with its references filled in. -/
def expanded : List Char :=
  Text.expand labelMark misfit.opening.toList closing label.toList

/-- The value is filled in behind the label. -/
theorem toList_note :
    (misfit.note label value).toList =
      Text.replaceFirst (misfit.opening.toList ++ (misfit.expanded label ++ closing)) valueMark
        value.toList := by
  have labelled := Text.replaceFirst_behind opens_labelMark misfit.braceless_opening
    closing label.toList
  rw [note, Problem.diagnose_lookupFields]
  simp only [Outcome.lookupFields, Parameter.fill, List.foldl_cons, List.foldl_nil,
    String.toList_ofList, template_problem]
  rw [expanded, ← labelled]
  rfl

variable {misfit label value}

theorem valueMark_inside (front : List Char) : valueMark <:+: front ++ closing :=
  ⟨front ++ [':', ' '], [], by simp [closing]⟩

/-- The placeholder of the value is found behind a label that does not hold it. -/
theorem splitAtFirst?_closing (missing : ¬ valueMark <:+: label.toList) :
    Text.splitAtFirst? valueMark (misfit.opening.toList ++ (label.toList ++ closing)) =
      some (misfit.opening.toList ++ (label.toList ++ [':', ' ']), []) := by
  have ending : Text.splitAtFirst? valueMark closing = some ([':', ' '], []) := by decide
  have outside : ':' ∉ valueMark.tail := by decide
  have behind := Text.splitAtFirst?_append_of_missing missing outside (' ' :: valueMark)
  rw [closing] at ending ⊢
  rw [Text.splitAtFirst?_append_of_not_mem opens_valueMark misfit.braceless_opening, behind, ending]
  rfl

/-- A plain label without the placeholder of the value stands in the diagnostic as it is. -/
theorem toList_note_of_plain (plain : Text.Plain label.toList)
    (missing : ¬ valueMark <:+: label.toList) :
    (misfit.note label value).toList =
      misfit.opening.toList ++ (label.toList ++ [':', ' ']) ++
        Text.expand valueMark (misfit.opening.toList ++ (label.toList ++ [':', ' '])) []
          value.toList := by
  rw [toList_note, expanded, Text.expand_of_plain plain, Text.replaceFirst,
    splitAtFirst?_closing missing]
  exact List.append_nil _

theorem closed_labelMark : Text.Closed valueMark labelMark :=
  .of_take (by decide) (by decide) 2 (by decide) (by decide) (by decide)

theorem closed_closing : Text.Closed valueMark closing :=
  .of_take (by decide) (by decide) 1 (by decide) (by decide) (by decide)

theorem closed_opening (misfit : Misfit) : Text.Closed valueMark misfit.opening.toList := by
  cases misfit <;> exact .of_take (by decide) (by decide) 1 (by decide) (by decide) (by decide)

/-- A label that stands in the diagnostic as it is holds no reference. -/
theorem plain_of_note (missing : ¬ valueMark <:+: label.toList) {rest : List Char}
    (shown : (misfit.note label value).toList = misfit.opening.toList ++ (label.toList ++ rest)) :
    Text.Plain label.toList := by
  obtain ⟨⟨front, back⟩, found⟩ :=
    Text.exists_splitAtFirst? (valueMark_inside (misfit.expanded label))
  have split := Text.eq_of_splitAtFirst? found
  -- The front is shown as it is, and it begins with the label, whatever the value brings behind it.
  have shows := Text.showsPlain_front closed_labelMark misfit.closed_opening closed_closing
    closed_closing (by decide) missing split
  rw [toList_note, Text.replaceFirst,
    Text.splitAtFirst?_append_of_not_mem opens_valueMark misfit.braceless_opening, found] at shown
  simp only [Option.map_some, List.append_assoc, List.append_cancel_left_eq] at shown
  exact (shows _ [] rest (List.nil_subset _) shown).2

/-- A label that does not hold the placeholder of the value and the value are both quoted exactly if
they hold no references. -/
theorem note_eq_iff (missing : ¬ valueMark <:+: label.toList) :
    misfit.note label value = misfit.opening ++ label ++ ": " ++ value ↔
      Text.Plain label.toList ∧ Text.Plain value.toList := by
  have verbatim : (misfit.opening ++ label ++ ": " ++ value).toList =
      misfit.opening.toList ++ (label.toList ++ ([':', ' '] ++ value.toList)) := by
    simp
  have unsigned : Text.Unsigned (misfit.opening.toList ++ (label.toList ++ [':', ' '])) := by
    cases misfit <;> exact Text.unsigned_cons (by decide) _
  have quoted : Text.expand valueMark (misfit.opening.toList ++ (label.toList ++ [':', ' '])) []
      value.toList = value.toList ↔ Text.Plain value.toList :=
    Text.expand_eq_self_iff (Text.unsigned_cons (by decide) _) unsigned Text.unsigned_nil
  rw [← String.toList_inj, verbatim]
  constructor
  · intro shown
    have plain := plain_of_note missing shown
    rw [toList_note_of_plain plain missing] at shown
    simp only [List.append_assoc, List.append_cancel_left_eq] at shown
    exact ⟨plain, quoted.mp shown⟩
  · rintro ⟨plain, valuePlain⟩
    rw [toList_note_of_plain plain missing, quoted.mpr valuePlain]
    simp only [List.append_assoc]

/-- A plain label that holds the placeholder of the value takes the value in, and the placeholder
behind it is left. -/
theorem note_of_inside {before after : String}
    (whole : label = before ++ Problem.placeholder "value" ++ after)
    (missing : ¬ valueMark <:+: before.toList) (plain : Text.Plain label.toList)
    (valuePlain : Text.Plain value.toList) :
    misfit.note label value =
      misfit.opening ++ before ++ value ++ after ++ ": " ++ Problem.placeholder "value" := by
  have split : label.toList = before.toList ++ (valueMark ++ after.toList) := by
    rw [whole, String.toList_append, String.toList_append, List.append_assoc]
    rfl
  have found := Text.splitAtFirst?_behind opens_valueMark (by decide) missing
    (after.toList ++ closing)
  apply String.toList_inj.mp
  rw [toList_note, expanded, Text.expand_of_plain plain, split, List.append_assoc,
    List.append_assoc, Text.replaceFirst_of_plain valuePlain,
    Text.splitAtFirst?_append_of_not_mem opens_valueMark misfit.braceless_opening, found]
  simp [closing, valueMark, Piece.written]

end Message.Misfit

namespace Outcome

def diagnostics {Value : Type} : Outcome Value → List Diagnostic
  | done _ _ => []
  | fail failure _ => failure.diagnostics

/-- A type name is quoted exactly if it holds no references. -/
theorem note_unregistered {Value : Type} (name : String) :
    (unregistered name : Outcome Value).diagnostics.map Diagnostic.message =
      ["Unknown value type: " ++ name] ↔ Text.Plain name.toList := by
  let before := "Unknown value type: ".toList
  let mark := (Piece.blank "type").written
  have template : Problem.unknownType.template.toList = before ++ (mark ++ []) := by decide
  have filled : (Problem.unknownType.diagnose (some [("type", .text name)])).message.toList =
      before ++ Text.expand mark before [] name.toList := by
    have words : ∀ name ∈ ["type"], name.toList.all Char.isDigit = false := by decide
    have braceless : '\x7b' ∉ before := by decide
    have replaced := Text.replaceFirst_behind (Piece.written_blank "type") braceless [] name.toList
    rw [Problem.unknownType.diagnose_of_words [("type", .text name)] words]
    simp only [Parameter.fill, List.foldl_cons, List.foldl_nil, String.toList_ofList, template]
    exact replaced.trans (by rw [List.append_nil])
  have quoted : Text.expand mark before [] name.toList = name.toList ↔ Text.Plain name.toList :=
    Text.expand_eq_self_iff (Text.unsigned_cons (by decide) _) (Text.unsigned_cons (by decide) _)
      Text.unsigned_nil
  have notes : (unregistered name : Outcome Value).diagnostics.map Diagnostic.message =
      [(Problem.unknownType.diagnose (some [("type", .text name)])).message] := rfl
  rw [notes, List.cons.injEq, and_iff_left rfl, ← String.toList_inj, filled, String.toList_append,
    List.append_cancel_left_eq, quoted]

end Outcome

namespace Message.Misfit

/-- What one diagnostic says about a label and a value that do not fit. It keeps both as they are,
but its message shows them without references only. -/
structure Quotes (misfit : Misfit) (label value : String) (diagnostics : List Diagnostic) :
    Prop where
  data : diagnostics.map Diagnostic.data = [some [("label", .text label), ("value", .text value)]]
  verbatim : ¬ valueMark <:+: label.toList →
    (diagnostics.map Diagnostic.message = [misfit.opening ++ label ++ ": " ++ value] ↔
      Text.Plain label.toList ∧ Text.Plain value.toList)
  /-- A label with the placeholder of the value takes the value in. -/
  misplaced : ∀ before after, label = before ++ Problem.placeholder "value" ++ after →
    ¬ valueMark <:+: before.toList → Text.Plain label.toList → Text.Plain value.toList →
      diagnostics.map Diagnostic.message =
        [misfit.opening ++ before ++ value ++ after ++ ": " ++ Problem.placeholder "value"]

theorem quotes_diagnose (misfit : Misfit) (label value : String) :
    misfit.Quotes label value
      [misfit.problem.diagnose (some (Outcome.lookupFields label value))] where
  data := by
    rw [Problem.diagnose_lookupFields]
    rfl
  verbatim missing := by
    rw [List.map_singleton, List.cons.injEq, and_iff_left rfl]
    exact note_eq_iff missing
  misplaced before after whole missing plain valuePlain :=
    congrArg (fun note => [note]) (note_of_inside whole missing plain valuePlain)

end Message.Misfit

theorem Scan.diagnostics_refusal (scan : Scan) (label key : String) (keywords : List String) :
    (scan.refusal label key keywords).diagnostics =
      [scan.misfit.problem.diagnose (some (Outcome.lookupFields label key))] := by
  unfold refusal
  cases scan.misfit <;> rfl

/-- Diagnostics quote a label, a value and a type name as they are if and only if these hold no
references, where the label does not hold the placeholder of the value. A lookup that finds its
table well formed and fails quotes the text of its cell in this way. -/
theorem quotes_verbatim_iff {Data : Type} (Value : Type) (catalogue : Catalogue Data)
    (name label value message : String) (candidates : List String) (effort : Effort) :
    ((Outcome.unregistered name : Outcome Value).diagnostics.map Diagnostic.message =
        ["Unknown value type: " ++ name] ↔ Text.Plain name.toList) ∧
      Message.Misfit.bad.Quotes label value
        (Outcome.unmatched label value message effort : Outcome Value).diagnostics ∧
      Message.Misfit.ambiguous.Quotes label value
        (Outcome.severalMatches label value message candidates effort :
          Outcome Value).diagnostics ∧
      ∀ (question : Question Data) (state later : State Data) (failure : Failure Diagnostic)
        (cost : Effort),
        (question.ask catalogue).run state = (.ok (.fail failure cost), later) →
          failure.reason ≠ .invariantViolated →
            ∃ (misfit : Message.Misfit) (key : String),
              ((Action.text catalogue question.cell).run state).1 = .ok key ∧
                failure.reason = misfit.reason ∧
                  misfit.Quotes question.label key failure.diagnostics := by
  refine ⟨Outcome.note_unregistered name, Message.Misfit.bad.quotes_diagnose label value,
    Message.Misfit.ambiguous.quotes_diagnose label value, ?_⟩
  intro question state later failure cost ended wellFormed
  obtain ⟨keywords, key, reading, reads, unresolved, refused, _⟩ :=
    Question.refused_of_fail ended wellFormed
  have diagnosed := (Scan.run key keywords).diagnostics_refusal question.label key keywords
  obtain ⟨_, failed, reason, _⟩ := (Scan.run key keywords).refusal_eq question.label key keywords
  rw [← refused] at diagnosed failed
  cases failed
  have quotes := (Scan.run key keywords).misfit.quotes_diagnose question.label key
  rw [← diagnosed] at quotes
  exact ⟨_, key, congrArg Prod.fst reads.ended, reason, quotes⟩

/-- A dollar sign before a letter is quoted, and a label with the placeholder of the value takes the
value in. -/
theorem quotes_verbatim_iff_dollar :
    let state := session .inert [.ofText "$HOME", .addTable (.ofKeywords ["start", "stop"])]
    let question : Question Unit := ⟨⟨0⟩, ⟨0⟩, 1, "option", false⟩
    (∃ failure cost later,
      (question.ask .inert).run state = (.ok (.fail failure cost), later) ∧
        failure.reason ≠ .invariantViolated ∧
          failure.diagnostics.map Diagnostic.message = ["Bad option: $HOME"]) ∧
      (Outcome.unmatched "a\x7bvalue\x7db" "$HOME" "" .unknown : Outcome Unit).diagnostics.map
        Diagnostic.message = ["Bad a$HOMEb: \x7bvalue\x7d"] := by
  intro state question
  obtain ⟨_, unmatched, _, failing⟩ := quotes_verbatim_iff Unit Catalogue.inert ""
    "a\x7bvalue\x7db" "$HOME" "" [] .unknown
  have read : ((Action.text .inert question.cell).run state).1 = .ok "$HOME" := rfl
  have stored : state.cells.get question.cell = ⟨some "$HOME", none⟩ := rfl
  have formed : (state.tables.get question.table).keywords question.stride =
      .done ["start", "stop"] .unknown := Table.keywords_of_result (by decide +kernel)
  obtain ⟨failure, later, ended, _, reason⟩ :=
    Question.run_ask_refused stored formed (by decide +kernel)
  have noMatch : failure.reason = .noMatch := reason.trans (by decide +kernel)
  have wellFormed : failure.reason ≠ .invariantViolated := by simp [noMatch]
  obtain ⟨misfit, key, shown, same, quotes⟩ :=
    failing question state later failure _ ended wellFormed
  cases shown.symm.trans read
  have bad : misfit = .bad := by
    cases misfit with
    | bad => rfl
    | ambiguous => cases same.symm.trans noMatch
  subst bad
  have missing : ¬ Message.Misfit.valueMark <:+: question.label.toList := by decide +kernel
  refine ⟨⟨failure, _, later, ended, wellFormed, (quotes.verbatim missing).mpr ?_⟩, ?_⟩
  · decide +kernel
  · exact unmatched.misplaced "a" "b" (by decide) (by decide) (by decide) (by decide)

/-- The text of a cell that is a reference to the placeholder is not quoted. -/
theorem reference_misquoted :
    let state := session .inert [.ofText "$&", .addTable (.ofKeywords ["start", "stop"])]
    let question : Question Unit := ⟨⟨0⟩, ⟨0⟩, 1, "option", false⟩
    ∃ failure cost, ((question.ask .inert).run state).1 = .ok (.fail failure cost) ∧
      ((Action.text .inert question.cell).run state).1 = .ok "$&" ∧ failure.reason = .noMatch ∧
        failure.diagnostics.map Diagnostic.message = ["Bad option: \x7bvalue\x7d"] ∧
          failure.diagnostics.map Diagnostic.message ≠ ["Bad " ++ "option" ++ ": " ++ "$&"] := by
  intro state question
  have read : ((Action.text .inert question.cell).run state).1 = .ok "$&" := rfl
  have formed : (state.tables.get question.table).keywords question.stride =
      .done ["start", "stop"] .unknown := Table.keywords_of_result (by decide +kernel)
  have stored : state.cells.get question.cell = ⟨some "$&", none⟩ := rfl
  obtain ⟨failure, later, ended, refused, reason⟩ :=
    Question.run_ask_refused stored formed (by decide +kernel)
  have shown : failure.diagnostics.map Diagnostic.message = ["Bad option: \x7bvalue\x7d"] := by
    have diagnosed := congrArg Outcome.diagnostics refused
    rw [Scan.diagnostics_refusal, Problem.diagnose_lookupFields] at diagnosed
    exact (congrArg (List.map Diagnostic.message) diagnosed).trans (by decide +kernel)
  refine ⟨failure, _, by rw [ended], read, reason.trans (by decide +kernel), shown, ?_⟩
  rw [shown]
  decide

end CommandWords
