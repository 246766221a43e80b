/-
This file shows that filling the blanks of a template one after another is the same as filling all
of them at once, as long as no value brings a brace or a dollar sign. The order of the parameters
has no part in the message then.
-/

import CommandWords.Outcome.Problem
import CommandWords.Proofs.Fields
import CommandWords.Proofs.Number.Numerals
import CommandWords.Proofs.Text.References

namespace CommandWords

/-- A part of a template stands as it is or is a blank for the parameter of its name. -/
inductive Piece where
  | text (characters : List Char)
  | blank (name : String)
deriving DecidableEq

namespace Piece

def written : Piece → List Char
  | text characters => characters
  | blank name => (Problem.placeholder name).toList

theorem written_blank (name : String) :
    (blank name).written = '\x7b' :: (name.toList ++ ['\x7d']) := by
  simp [written, Problem.placeholder]

/-- A blank without a value is left as it is. -/
def filled (values : String → Option String) : Piece → List Char
  | text characters => characters
  | blank name => ((values name).getD (Problem.placeholder name)).toList

/-- The pieces of what follows an open brace. -/
def ofChunk (chunk : List Char) : List Piece :=
  match chunk.dropWhile (· ≠ '\x7d') with
  | [] => [text ('\x7b' :: chunk)]
  | _ :: rest => [blank (String.ofList (chunk.takeWhile (· ≠ '\x7d'))), text rest]

def ofTemplate (template : String) : List Piece :=
  match template.toList.splitOn '\x7b' with
  | [] => []
  | first :: chunks => text first :: chunks.flatMap ofChunk

def name? : Piece → Option String
  | text _ => none
  | blank name => some name

/-- An open brace begins a blank and nothing else, and a close brace ends it. -/
def Sound : Piece → Prop
  | text characters => '\x7b' ∉ characters
  | blank name => '\x7b' ∉ name.toList ∧ '\x7d' ∉ name.toList

instance (piece : Piece) : Decidable piece.Sound := by
  cases piece <;> unfold Sound <;> infer_instance

/-- A value takes the place of the first blank of its name. -/
def put (name value : String) : List Piece → List Piece
  | [] => []
  | piece :: rest =>
      if piece = blank name then text value.toList :: rest else piece :: put name value rest

variable {name other value : String} {pieces : List Piece}

theorem sound_put (sound : ∀ piece ∈ pieces, piece.Sound) (closed : '\x7b' ∉ value.toList) :
    ∀ piece ∈ put name value pieces, piece.Sound := by
  induction pieces with
  | nil => simp [put]
  | cons first rest inductionHypothesis =>
      obtain ⟨soundFirst, soundRest⟩ := List.forall_mem_cons.mp sound
      rw [put]
      split
      · exact List.forall_mem_cons.mpr ⟨closed, soundRest⟩
      · exact List.forall_mem_cons.mpr ⟨soundFirst, inductionHypothesis soundRest⟩

theorem names_put_sublist (name value : String) (pieces : List Piece) :
    ((put name value pieces).filterMap name?).Sublist (pieces.filterMap name?) := by
  induction pieces with
  | nil => exact .slnil
  | cons first rest inductionHypothesis =>
      rw [put]
      split
      next same =>
        rw [same]
        exact .cons _ (.refl _)
      next =>
        rw [List.filterMap_cons, List.filterMap_cons]
        cases first.name? with
        | none => exact inductionHypothesis
        | some found => exact inductionHypothesis.cons_cons found

/-- A placeholder is found only where its own name stands in braces. -/
theorem name_eq_of_begins {rest : List Char} (closed : '\x7d' ∉ name.toList)
    (otherClosed : '\x7d' ∉ other.toList)
    (begins : (blank name).written <+: (blank other).written ++ rest) : name = other := by
  rw [written_blank, written_blank, List.cons_append] at begins
  obtain ⟨behind, same⟩ := (List.cons_prefix_cons.mp begins).2
  rw [List.append_assoc, List.append_assoc] at same
  have taken {characters : List Char} (closed : '\x7d' ∉ characters) (rest : List Char) :
      (characters ++ '\x7d' :: rest).takeWhile (· ≠ '\x7d') = characters := by
    rw [List.takeWhile_append_of_pos, List.takeWhile_cons_of_neg (by simp), List.append_nil]
    intro character member
    exact decide_eq_true fun brace => closed (brace ▸ member)
  have read := congrArg (List.takeWhile (· ≠ '\x7d')) same
  rw [List.singleton_append, List.singleton_append, taken closed, taken otherClosed] at read
  exact String.toList_inj.mp read

/-- A placeholder of another name is skipped. -/
theorem replaceFirst_other {replacement : List Char} (plain : Text.Plain replacement)
    (different : name ≠ other) (closed : '\x7d' ∉ name.toList)
    (otherSound : (blank other).Sound) (rest : List Char) :
    Text.replaceFirst ((blank other).written ++ rest) (blank name).written replacement =
      (blank other).written ++ Text.replaceFirst rest (blank name).written replacement := by
  have unlike : ¬ (blank name).written <+: (blank other).written ++ rest :=
    fun begins => different (name_eq_of_begins closed otherSound.2 begins)
  have inner : '\x7b' ∉ other.toList ++ ['\x7d'] := by simp [otherSound.1]
  rw [written_blank, written_blank, List.cons_append] at unlike ⊢
  rw [Text.replaceFirst_cons plain unlike, Text.replaceFirst_append_of_not_mem plain rfl inner,
    List.cons_append]

/-- Replacing a placeholder in the text of the pieces puts its value into the first blank. -/
theorem replaceFirst_written (sound : ∀ piece ∈ pieces, piece.Sound)
    (closed : '\x7d' ∉ name.toList) (plain : Text.Plain value.toList) :
    Text.replaceFirst (pieces.flatMap written) (blank name).written value.toList =
      (put name value pieces).flatMap written := by
  induction pieces with
  | nil =>
      rw [Text.replaceFirst_of_plain plain, written_blank]
      rfl
  | cons first rest inductionHypothesis =>
      obtain ⟨soundFirst, soundRest⟩ := List.forall_mem_cons.mp sound
      have replaced := inductionHypothesis soundRest
      rw [put, List.flatMap_cons]
      split
      next same =>
        have nonempty : (blank name).written ≠ [] := by simp [written_blank]
        rw [same, List.flatMap_cons, Text.replaceFirst_self plain nonempty, written]
      next different =>
        rw [List.flatMap_cons, ← replaced]
        cases first with
        | text characters =>
            exact Text.replaceFirst_append_of_not_mem plain (written_blank name) soundFirst _
        | blank other =>
            have apart : name ≠ other := fun same => different (congrArg blank same.symm)
            exact replaceFirst_other plain apart closed soundFirst _

theorem written_eq_filled (pieces : List Piece) :
    pieces.flatMap written = pieces.flatMap (filled fun _ => none) := by
  have same : written = filled fun _ => none := by
    funext piece
    cases piece <;> rfl
  rw [same]

/-- A value that is put into the pieces is a value of its name, if no other blank has this name. -/
theorem filled_put (distinct : (pieces.filterMap name?).Nodup) (values : String → Option String) :
    (put name value pieces).flatMap (filled values) =
      pieces.flatMap (filled fun other => if other = name then some value else values other) := by
  induction pieces with
  | nil => rfl
  | cons first rest inductionHypothesis =>
      rw [put, List.flatMap_cons]
      split
      next same =>
        subst same
        obtain ⟨single, _⟩ := List.nodup_cons.mp distinct
        rw [List.flatMap_cons]
        have others : rest.flatMap (filled values) =
            rest.flatMap
              (filled fun other => if other = name then some value else values other) := by
          apply List.flatMap_congr
          intro piece member
          cases piece with
          | text characters => rfl
          | blank other =>
              have apart : other ≠ name := by
                rintro rfl
                exact single (List.mem_filterMap.mpr ⟨_, member, rfl⟩)
              simp only [filled, if_neg apart]
        rw [others]
        simp [filled]
      next different =>
        have rest_distinct : (rest.filterMap name?).Nodup :=
          distinct.sublist ((List.sublist_cons_self first rest).filterMap name?)
        rw [List.flatMap_cons, inductionHypothesis rest_distinct]
        cases first with
        | text characters => rfl
        | blank other =>
            have apart : other ≠ name := fun same => different (congrArg blank same)
            simp only [filled, if_neg apart]

end Piece

namespace Parameter

/-- The value of a name among parameters. The first one counts. -/
def value? (parameters : Fields Parameter) (name : String) : Option String :=
  (parameters.lookup name).map written

/-- A text without an open brace and a dollar sign. -/
def Harmless : Parameter → Prop
  | text value => '\x7b' ∉ value.toList ∧ '$' ∉ value.toList
  | number _ => True

instance (parameter : Parameter) : Decidable parameter.Harmless := by
  cases parameter <;> unfold Harmless <;> infer_instance

theorem Harmless.written {parameter : Parameter} (harmless : parameter.Harmless) :
    '\x7b' ∉ parameter.written.toList ∧ '$' ∉ parameter.written.toList := by
  cases parameter with
  | text value => exact harmless
  | number number =>
      have numeral := number.numeral_text
      exact ⟨fun brace => absurd (numeral _ brace) (by decide),
        fun dollar => absurd (numeral _ dollar) (by decide)⟩

/-- The name holds no brace and the value is harmless. -/
def Fillable (field : String × Parameter) : Prop :=
  '\x7b' ∉ field.1.toList ∧ '\x7d' ∉ field.1.toList ∧ field.2.Harmless

instance (field : String × Parameter) : Decidable (Fillable field) :=
  inferInstanceAs (Decidable (_ ∧ _ ∧ _))

variable {parameters : Fields Parameter} {pieces : List Piece}

/-- Filling the text of the pieces puts the values into their blanks. -/
theorem fill_written (fillable : ∀ field ∈ parameters, Fillable field)
    (sound : ∀ piece ∈ pieces, piece.Sound) :
    (fill (String.ofList (pieces.flatMap Piece.written)) parameters).toList =
      (parameters.foldl (fun pieces field => Piece.put field.1 field.2.written pieces)
        pieces).flatMap Piece.written := by
  induction parameters generalizing pieces with
  | nil => exact String.toList_ofList
  | cons field rest inductionHypothesis =>
      obtain ⟨first, others⟩ := List.forall_mem_cons.mp fillable
      obtain ⟨braceless, dollarless⟩ := first.2.2.written
      have closed : '\x7d' ∉ field.1.toList := first.2.1
      have replaced := Piece.replaceFirst_written sound closed (Text.plain_of_not_mem dollarless)
      rw [List.foldl_cons, ← inductionHypothesis others (Piece.sound_put sound braceless),
        ← replaced, fill, List.foldl_cons, String.toList_ofList]
      rfl

/-- Values that are put one after another fill all blanks at once. -/
theorem put_all (distinct : (pieces.filterMap Piece.name?).Nodup) :
    (parameters.foldl (fun pieces field => Piece.put field.1 field.2.written pieces)
      pieces).flatMap Piece.written = pieces.flatMap (Piece.filled (value? parameters)) := by
  induction parameters generalizing pieces with
  | nil => exact Piece.written_eq_filled pieces
  | cons field rest inductionHypothesis =>
      obtain ⟨first, given⟩ := field
      have kept := distinct.sublist (Piece.names_put_sublist first given.written pieces)
      rw [List.foldl_cons, inductionHypothesis kept, Piece.filled_put distinct]
      congr 2
      funext name
      rw [value?, value?, Fields.lookup_cons_eq]
      split <;> rfl

/-- Fields whose names write positions stand before all others. -/
theorem exists_arrange (parameters : Fields Parameter) :
    ∃ positioned, arrange parameters =
        positioned ++ List.filter (fun field => (position? field.1).isNone) parameters ∧
      ∀ field ∈ positioned, field ∈ parameters ∧ position? field.1 ≠ none := by
  refine ⟨_, rfl, fun field member => ?_⟩
  obtain ⟨⟨position, found⟩, sorted, rfl⟩ := List.mem_map.mp member
  obtain ⟨source, member, made⟩ := List.mem_filterMap.mp (List.mem_mergeSort.mp sorted)
  obtain ⟨_, known, pair⟩ := Option.map_eq_some_iff.mp made
  cases pair
  exact ⟨member, by simp [known]⟩

theorem mem_of_mem_arrange {field : String × Parameter} (member : field ∈ arrange parameters) :
    field ∈ parameters := by
  obtain ⟨positioned, arranged, given⟩ := exists_arrange parameters
  rw [arranged, List.mem_append] at member
  rcases member with first | other
  · exact (given field first).1
  · exact (List.mem_filter.mp other).1

/-- The arrangement keeps what is found under a name that writes no position. -/
theorem lookup_arrange {name : String} (word : position? name = none)
    (parameters : Fields Parameter) :
    (arrange parameters).lookup name = parameters.lookup name := by
  obtain ⟨positioned, arranged, given⟩ := exists_arrange parameters
  have absent : name ∉ positioned.map Prod.fst := by
    intro named
    obtain ⟨field, member, rfl⟩ := List.mem_map.mp named
    exact (given field member).2 word
  rw [arranged, List.lookup_append, Fields.lookup_eq_none_of_not_mem absent, Option.none_or,
    Fields.lookup_filter fun _ => by simp [word]]

/-- A name with anything but digits writes no position. -/
theorem position?_eq_none {name : String} (word : name.toList.all Char.isDigit = false) :
    position? name = none := by
  obtain ⟨character, member, other⟩ := List.all_eq_false.mp word
  unfold position?
  split
  next position _ =>
    rw [if_neg]
    rintro ⟨rfl, _⟩
    have digits : (toString position).toList = Nat.toDigits 10 position := Nat.toList_repr
    rw [digits] at member
    exact other (Nat.isDigit_of_mem_toDigits (by decide) (by decide) member)
  next => rfl

end Parameter

namespace Problem

/-- The pieces of the template of a problem. -/
def pieces (problem : Problem) : List Piece := Piece.ofTemplate problem.template

/-- The names of the blanks of a problem. -/
def names (problem : Problem) : List String := problem.pieces.filterMap Piece.name?

theorem written_pieces (problem : Problem) :
    problem.pieces.flatMap Piece.written = problem.template.toList := by
  cases problem <;> decide

theorem sound_pieces (problem : Problem) : ∀ piece ∈ problem.pieces, piece.Sound := by
  cases problem <;> decide

theorem nodup_names (problem : Problem) : problem.names.Nodup := by
  cases problem <;> decide

theorem position?_of_mem_names (problem : Problem) {name : String} (member : name ∈ problem.names) :
    Parameter.position? name = none := by
  have words : ∀ name ∈ problem.names, name.toList.all Char.isDigit = false := by
    cases problem <;> decide
  exact Parameter.position?_eq_none (words name member)

/-- The template with the values of all its blanks filled in at once. -/
def filledAtOnce (problem : Problem) (values : String → Option String) : String :=
  String.ofList (problem.pieces.flatMap (Piece.filled values))

/-- Only the values of the blanks count. -/
theorem filledAtOnce_congr (problem : Problem) {values others : String → Option String}
    (same : ∀ name ∈ problem.names, values name = others name) :
    problem.filledAtOnce values = problem.filledAtOnce others := by
  unfold filledAtOnce
  congr 1
  apply List.flatMap_congr
  intro piece member
  cases piece with
  | text characters => rfl
  | blank name =>
      have named : name ∈ problem.names := List.mem_filterMap.mpr ⟨_, member, rfl⟩
      rw [Piece.filled, Piece.filled, same name named]

theorem message_diagnose (problem : Problem) {parameters : Fields Parameter}
    (fillable : ∀ field ∈ parameters, Parameter.Fillable field) :
    (problem.diagnose (some parameters)).message =
      problem.filledAtOnce (Parameter.value? parameters) := by
  have template : problem.template = String.ofList (problem.pieces.flatMap Piece.written) := by
    rw [written_pieces, String.ofList_toList]
  have arranged : ∀ field ∈ Parameter.arrange parameters, Parameter.Fillable field :=
    fun field member => fillable field (Parameter.mem_of_mem_arrange member)
  have filled : (problem.diagnose (some parameters)).message =
      problem.filledAtOnce (Parameter.value? (Parameter.arrange parameters)) := by
    apply String.toList_inj.mp
    rw [filledAtOnce, String.toList_ofList, ← Parameter.put_all problem.nodup_names,
      ← Parameter.fill_written arranged problem.sound_pieces, ← template]
    rfl
  rw [filled]
  apply problem.filledAtOnce_congr
  intro name member
  rw [Parameter.value?, Parameter.lookup_arrange (problem.position?_of_mem_names member),
    Parameter.value?]

/-- The fields that fill a blank of a problem. -/
def related (problem : Problem) (parameters : Fields Parameter) : Fields Parameter :=
  List.filter (fun field => field.1 ∈ problem.names) parameters

/-- Parameters fill a template as if all at once, and a blank without a parameter is left. Neither
their order nor the other parameters beside them have a part in the message. -/
theorem message_order_independent (problem : Problem) {parameters : Fields Parameter}
    (fillable : ∀ field ∈ parameters, Parameter.Fillable field) :
    (problem.diagnose (some parameters)).message =
        problem.filledAtOnce (Parameter.value? parameters) ∧
      ∀ others : Fields Parameter, (∀ field ∈ others, Parameter.Fillable field) →
        parameters.Distinct → (problem.related parameters).Perm (problem.related others) →
          (problem.diagnose (some others)).message =
            (problem.diagnose (some parameters)).message := by
  refine ⟨problem.message_diagnose fillable, fun others fillableToo distinct permuted => ?_⟩
  rw [problem.message_diagnose fillable, problem.message_diagnose fillableToo]
  apply problem.filledAtOnce_congr
  intro name member
  have kept (given : Fields Parameter) : given.lookup name = (problem.related given).lookup name :=
    (Fields.lookup_filter (fun _ => decide_eq_true member) given).symm
  have alike : (problem.related others).lookup name = (problem.related parameters).lookup name :=
    (distinct.filter fun field => field.1 ∈ problem.names).lookup_of_perm permuted
  rw [Parameter.value?, Parameter.value?, kept others, kept parameters]
  exact congrArg (Option.map Parameter.written) alike

/-- A close brace in a value and names that write positions change nothing. -/
theorem message_order_independent_positions :
    let parameters : Fields Parameter :=
      [("value", .text "label\x7d"), ("7", .text "x"), ("label", .number (.natural 3))]
    let others : Fields Parameter := [("label", .number (.natural 3)), ("value", .text "label\x7d")]
    (badValue.diagnose (some parameters)).message = "Bad 3: label\x7d" ∧
      (badValue.diagnose (some others)).message = "Bad 3: label\x7d" := by
  intro parameters others
  have fillable : ∀ field ∈ parameters, Parameter.Fillable field := by decide
  obtain ⟨filled, independent⟩ := badValue.message_order_independent fillable
  have message : badValue.filledAtOnce (Parameter.value? parameters) = "Bad 3: label\x7d" := by
    decide +kernel
  rw [message] at filled
  exact ⟨filled, (independent others (by decide) (by decide) (by decide +kernel)).trans filled⟩

end Problem

end CommandWords
