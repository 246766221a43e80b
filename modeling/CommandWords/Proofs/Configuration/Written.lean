/-
This file shows that a configuration survives being written, in the words and numbers of an
environment or in the fields of an object. Each setting may be written in any of its forms.
-/

import CommandWords.Proofs.Configuration.Layers
import CommandWords.Proofs.Number.Integers
import Mathlib.Data.List.Forall2
import Mathlib.Data.List.TakeWhile

namespace CommandWords

namespace Text

def Blank (characters : List Char) : Prop := ∀ character ∈ characters, isBlank character = true

theorem isBlank_of_isDigit {character : Char} (digit : character.isDigit = true) :
    isBlank character = false := by
  simp only [Char.isDigit, Bool.and_eq_true, decide_eq_true_eq] at digit
  have lower : 48 ≤ character.toNat := UInt32.le_iff_toNat_le.mp digit.1
  have upper : character.toNat ≤ 57 := UInt32.le_iff_toNat_le.mp digit.2
  simp only [isBlank, Bool.or_eq_false_iff, Bool.and_eq_false_iff, decide_eq_false_iff_not,
    beq_eq_false_iff_ne]
  omega

/-- Blanks are skipped up to the first character that is none. -/
theorem dropWhile_blank {before rest : List Char} (blank : Blank before)
    (stop : ∀ character ∈ rest.head?, isBlank character = false) :
    (before ++ rest).dropWhile isBlank = rest := by
  induction before with
  | nil =>
      cases rest with
      | nil => rfl
      | cons first rest =>
          rw [List.nil_append, List.dropWhile_cons, stop first rfl]
          exact if_neg Bool.false_ne_true
  | cons first before inductionHypothesis =>
      obtain ⟨skipped, others⟩ := List.forall_mem_cons.mp blank
      rw [List.cons_append, List.dropWhile_cons, if_pos skipped, inductionHypothesis others]

/-- A word between blanks. -/
theorem trim_between {before word after : List Char} (first : Blank before) (last : Blank after)
    (proper : word ≠ []) (plain : ∀ character ∈ word, isBlank character = false) :
    trim (before ++ word ++ after) = word := by
  have start : (before ++ (word ++ after)).dropWhile isBlank = word ++ after := by
    apply dropWhile_blank first
    intro character head
    rw [List.head?_append_of_ne_nil _ proper] at head
    exact plain character (List.mem_of_mem_head? head)
  have back : (after.reverse ++ word.reverse).dropWhile isBlank = word.reverse := by
    apply dropWhile_blank
    · intro character member
      exact last character (List.mem_reverse.mp member)
    · intro character head
      exact plain character (List.mem_reverse.mp (List.mem_of_mem_head? head))
  rw [trim, List.append_assoc, start, List.reverse_append, back, List.reverse_reverse]

end Text

namespace Configuration

open Text (Blank)

/-- The words that stand for a flag. -/
def wordsFor : Bool → List (List Char)
  | true => yesWords
  | false => noWords

/-- A letter of a word or its capital. -/
def AnyCase (character letter : Char) : Prop := character = letter ∨ character = letter.toUpper

/-- A word for a flag, with capitals anywhere and between blanks. -/
inductive SpellsFlag (flag : Bool) : String → Prop where
  | word (before written after word : List Char) (accepted : word ∈ wordsFor flag)
      (cased : List.Forall₂ AnyCase written word) (first : Blank before) (last : Blank after) :
      SpellsFlag flag (String.ofList (before ++ written ++ after))

/-- The text of a number behind blanks. -/
inductive SpellsNumber (number : Number) : String → Prop where
  | text (before : List Char) (first : Blank before) :
      SpellsNumber number (String.ofList (before ++ number.text.toList))

/-- No blank, and small letters give it back from its capital as well. -/
def isRecovered (letter : Char) : Bool :=
  [letter, letter.toUpper].all fun character =>
    !Text.isBlank character && character.toLower == letter

theorem isRecovered_of_accepted {flag : Bool} {word : List Char} (accepted : word ∈ wordsFor flag) :
    word ≠ [] ∧ ∀ letter ∈ word, isRecovered letter = true := by
  have table : (wordsFor flag).all fun word => !word.isEmpty && word.all isRecovered := by
    cases flag <;> decide +kernel
  have found := List.all_eq_true.mp table word accepted
  simpa using found

theorem AnyCase.recovered {character letter : Char} (cased : AnyCase character letter)
    (found : isRecovered letter = true) :
    Text.isBlank character = false ∧ character.toLower = letter := by
  have both := List.all_eq_true.mp found character (by simpa [AnyCase] using cased)
  simpa using both

theorem map_toLower_of_cased {written word : List Char} (cased : List.Forall₂ AnyCase written word)
    (found : ∀ letter ∈ word, isRecovered letter = true) :
    written.map Char.toLower = word ∧ ∀ character ∈ written, Text.isBlank character = false := by
  induction cased with
  | nil => exact ⟨rfl, fun character member => absurd member List.not_mem_nil⟩
  | cons same _ inductionHypothesis =>
      obtain ⟨known, others⟩ := List.forall_mem_cons.mp found
      obtain ⟨plain, small⟩ := same.recovered known
      obtain ⟨rest, plainRest⟩ := inductionHypothesis others
      exact ⟨by rw [List.map_cons, small, rest], List.forall_mem_cons.mpr ⟨plain, plainRest⟩⟩

/-- No word stands for both flags. -/
theorem flag_of_accepted {flag : Bool} {word : List Char} (accepted : word ∈ wordsFor flag) :
    (if word ∈ yesWords then some true else if word ∈ noWords then some false else none) =
      some flag := by
  cases flag with
  | true => exact if_pos accepted
  | false =>
      have apart : noWords.all fun word => decide (word ∉ yesWords) := by decide +kernel
      have other := of_decide_eq_true (List.all_eq_true.mp apart word accepted)
      rw [if_neg other]
      exact if_pos accepted

theorem readBool?_of_spells {flag : Bool} {text : String} (spelled : SpellsFlag flag text) :
    readBool? text = some flag := by
  cases spelled with
  | word before written after word accepted cased first last =>
      obtain ⟨proper, found⟩ := isRecovered_of_accepted accepted
      obtain ⟨small, plain⟩ := map_toLower_of_cased cased found
      have kept : written ≠ [] := by
        rintro rfl
        exact proper small.symm
      rw [readBool?, String.toList_ofList, Text.trim_between first last kept plain, small]
      exact flag_of_accepted accepted

/-- The digits of an integer that needs no rounding. -/
theorem readDigits?_toDigits {value : Nat} (small : value < twoPower 53) (negative : Bool) :
    readDigits? negative (Nat.toDigits 10 value) =
      some (.finite negative (value * Number.unit)) := by
  have digits : (Nat.toDigits 10 value).takeWhile Char.isDigit = Nat.toDigits 10 value :=
    List.takeWhile_eq_self_iff.mpr fun _ =>
      Nat.isDigit_of_mem_toDigits (by decide) (by decide)
  have proper : Nat.toDigits 10 value ≠ [] := Nat.toDigits_ne_nil
  obtain ⟨first, rest, shape⟩ := List.exists_cons_of_ne_nil proper
  rw [readDigits?, digits, shape]
  dsimp only
  rw [← shape, Number.ofDigits_toDigits, Number.ofDecimal_natural small]

/-- A text that starts with a digit has no sign. -/
theorem readInteger?_unsigned {before digits : List Char} (blank : Blank before)
    (proper : digits ≠ []) (all : ∀ character ∈ digits, character.isDigit = true) :
    readInteger? (String.ofList (before ++ digits)) = readDigits? false digits := by
  obtain ⟨first, rest, rfl⟩ := List.exists_cons_of_ne_nil proper
  have digit := all first List.mem_cons_self
  have stop : ∀ character ∈ (first :: rest).head?, Text.isBlank character = false := by
    rintro character ⟨⟩
    exact Text.isBlank_of_isDigit digit
  rw [readInteger?, String.toList_ofList, Text.dropWhile_blank blank stop]
  split
  next same =>
    rw [(List.cons.inj same).1] at digit
    exact absurd digit (by decide)
  next same =>
    rw [(List.cons.inj same).1] at digit
    exact absurd digit (by decide)
  next => rfl

theorem readInteger?_negative {before : List Char} (blank : Blank before) (digits : List Char) :
    readInteger? (String.ofList (before ++ '-' :: digits)) = readDigits? true digits := by
  have stop : ∀ character ∈ ('-' :: digits).head?, Text.isBlank character = false := by
    rintro character ⟨⟩
    decide
  rw [readInteger?, String.toList_ofList, Text.dropWhile_blank blank stop]
  rfl

theorem readInteger?_of_spells {limit : Int} (small : limit.natAbs < twoPower 53) {text : String}
    (spelled : SpellsNumber (.integer limit) text) : readInteger? text = some (.integer limit) := by
  cases spelled with
  | text before blank =>
      rw [Number.text_integer (Nat.le_of_lt small)]
      cases limit with
      | ofNat value =>
          have written : (toString (Int.ofNat value)).toList = Nat.toDigits 10 value :=
            Nat.toList_repr
          rw [written, readInteger?_unsigned blank Nat.toDigits_ne_nil fun _ =>
            Nat.isDigit_of_mem_toDigits (by decide) (by decide)]
          exact readDigits?_toDigits small false
      | negSucc value =>
          have written : (toString (Int.negSucc value)).toList =
              '-' :: Nat.toDigits 10 (value + 1) := by
            have parts : toString (Int.negSucc value) = "-" ++ Nat.repr (value + 1) := rfl
            rw [parts, String.toList_append, Nat.toList_repr]
            rfl
          rw [written, readInteger?_negative blank]
          exact readDigits?_toDigits small true

namespace Kind

variable {Value : Type}

/-- The texts that write a value. -/
def Spells : Kind Value → Value → String → Prop
  | flag => SpellsFlag
  | number => SpellsNumber

def toJson : Kind Value → Value → Json
  | flag => Json.bool
  | number => Json.number

theorem ofJson?_toJson (kind : Kind Value) (value : Value) :
    kind.ofJson? (kind.toJson value) = some value := by
  cases kind <;> rfl

end Kind

namespace Setting

variable {Value : Type}

/-- What follows the common part of the names of environment variables. -/
def suffix : Setting Value → String
  | exactByDefault => "_EXACT"
  | logLimit => "_LOG_LIMIT"
  | logEnabled => "_LOG_ENABLED"
  | literalFirstWord => "_LITERAL_FIRST_WORD"

variable (setting : Setting Value)

/-- The variable of the setting writes the value. -/
def InEnvironment (value : Value) (name : String) (environment : Environment) : Prop :=
  ∃ text, environment.lookup (name ++ setting.suffix) = some text ∧ setting.kind.Spells value text

theorem of_ofEnvironment_named (name : String) (environment : Environment) :
    setting.of (ofEnvironment name environment) =
      ((environment.lookup (name ++ setting.suffix)).bind setting.kind.ofText?).getD
        setting.standard := by
  cases setting <;> rfl

/-- What stands under a name in the group of the setting. -/
def field? (fields : Fields Json) (name : String) : Option Json :=
  (Configuration.group fields setting.group).lookup name

/-- One of the two names has the value. If it is the second one, then the first one has nothing
of the same kind. -/
inductive InFields (value : Value) (fields : Fields Json) : Prop where
  | camel (found : setting.field? fields setting.camelName = some (setting.kind.toJson value))
  | snake (found : setting.field? fields setting.snakeName = some (setting.kind.toJson value))
      (other : ∀ data, setting.field? fields setting.camelName = some data →
        setting.kind.ofJson? data = none)

theorem given?_of_inFields {value : Value} {fields : Fields Json}
    (written : setting.InFields value fields) :
    setting.given? (Changes.ofFields fields) = some value := by
  rw [given?_ofFields, inData?, under?_eq, under?_eq, ← field?, ← field?]
  cases written with
  | camel found => rw [found, Option.bind_some, setting.kind.ofJson?_toJson, Option.some_or]
  | snake found other =>
      rw [Option.bind_eq_none_iff.mpr other, found, Option.bind_some,
        setting.kind.ofJson?_toJson, Option.none_or]

/-- Changes that give every setting of a configuration. -/
theorem eq_toChanges {changes : Changes} {configuration : Configuration}
    (given : ∀ {Value : Type} (setting : Setting Value),
      setting.given? changes = some (setting.of configuration)) :
    changes = configuration.toChanges := by
  obtain ⟨⟨exactByDefault, logLimit, logEnabled⟩, ⟨literalFirstWord⟩⟩ := changes
  obtain rfl : exactByDefault = _ := given .exactByDefault
  obtain rfl : logLimit = _ := given .logLimit
  obtain rfl : logEnabled = _ := given .logEnabled
  obtain rfl : literalFirstWord = _ := given .literalFirstWord
  rfl

end Setting

/-- The variables with this name write a configuration. There may be others besides. -/
def InEnvironment (configuration : Configuration) (name : String) (environment : Environment) :
    Prop :=
  ∀ {Value : Type} (setting : Setting Value),
    setting.InEnvironment (setting.of configuration) name environment

/-- The fields write a configuration. There may be others besides. -/
def InFields (configuration : Configuration) (fields : Fields Json) : Prop :=
  ∀ {Value : Type} (setting : Setting Value), setting.InFields (setting.of configuration) fields

theorem ofEnvironment_of_written {configuration : Configuration} {limit : Int}
    (exact : configuration.lookup.logLimit = .integer limit) (small : limit.natAbs < twoPower 53)
    {name : String} {environment : Environment}
    (written : configuration.InEnvironment name environment) :
    ofEnvironment name environment = configuration := by
  have read : ∀ {Value : Type} (setting : Setting Value) (text : String),
      setting.kind.Spells (setting.of configuration) text →
        setting.kind.ofText? text = some (setting.of configuration) := by
    intro Value setting text spelled
    cases setting with
    | logLimit =>
        have value : Setting.logLimit.of configuration = .integer limit := exact
        rw [value] at spelled ⊢
        exact readInteger?_of_spells small spelled
    | exactByDefault => exact readBool?_of_spells spelled
    | logEnabled => exact readBool?_of_spells spelled
    | literalFirstWord => exact readBool?_of_spells spelled
  apply Setting.eq_of_values
  intro Value setting
  obtain ⟨text, found, spelled⟩ := written setting
  rw [setting.of_ofEnvironment_named, found, Option.bind_some, read setting text spelled,
    Option.getD_some]

theorem ofFields_of_written {configuration : Configuration} {fields : Fields Json}
    (written : configuration.InFields fields) :
    Changes.ofFields fields = configuration.toChanges :=
  Setting.eq_toChanges fun setting => setting.given?_of_inFields (written setting)

/-- A configuration whose limit needs no rounding is read as it was written. -/
theorem read_written (configuration : Configuration) (limit : Int)
    (exact : configuration.lookup.logLimit = .integer limit)
    (small : limit.natAbs < twoPower 53) :
    (∀ (name : String) (environment : Environment),
      configuration.InEnvironment name environment →
        ofEnvironment name environment = configuration) ∧
    ∀ fields : Fields Json,
      configuration.InFields fields → Changes.ofFields fields = configuration.toChanges :=
  ⟨fun _ _ written => ofEnvironment_of_written exact small written,
    fun _ written => ofFields_of_written written⟩

/-- A flag in capitals or as a digit, blanks around words and numbers, and a number that hides no
flag. -/
theorem read_written_mixed :
    ofEnvironment "APP"
        [("APP_EXACT", "\tyEs "), ("APP_LOG_LIMIT", "  -12"), ("KEYREP_LOG_ENABLED", "1"),
          ("APP_LOG_ENABLED", "OFF"), ("APP_LITERAL_FIRST_WORD", "1")] =
      ⟨⟨true, .integer (-12), false⟩, ⟨true⟩⟩ ∧
    Changes.ofFields
        [("lookup", .object
            [("exact_by_default", .bool true), ("exactByDefault", .number 0),
              ("logLimit", .number (.integer (-12))), ("log_limit", .text "5"),
              ("logEnabled", .bool false)]),
          ("usage", .object [("literal_first_word", .bool true)])] =
      toChanges ⟨⟨true, .integer (-12), false⟩, ⟨true⟩⟩ := by
  have reads := read_written ⟨⟨true, .integer (-12), false⟩, ⟨true⟩⟩ (-12) rfl (by decide)
  constructor
  · apply reads.1
    intro Value setting
    cases setting with
    | exactByDefault =>
        refine ⟨_, rfl, .word ['\t'] ['y', 'E', 's'] [' '] ['y', 'e', 's'] ?_ ?_ ?_ ?_⟩
        · decide +kernel
        · exact .cons (.inl rfl) (.cons (.inr rfl) (.cons (.inl rfl) .nil))
        · simp [Blank, Text.isBlank]
        · simp [Blank, Text.isBlank]
    | logLimit =>
        have spelled : SpellsNumber (.integer (-12)) _ :=
          .text [' ', ' '] (by simp [Blank, Text.isBlank])
        rw [Number.text_integer (by decide)] at spelled
        exact ⟨_, rfl, spelled⟩
    | logEnabled =>
        refine ⟨_, rfl, .word [] ['O', 'F', 'F'] [] ['o', 'f', 'f'] ?_ ?_ ?_ ?_⟩
        · decide +kernel
        · exact .cons (.inr rfl) (.cons (.inr rfl) (.cons (.inr rfl) .nil))
        · simp [Blank]
        · simp [Blank]
    | literalFirstWord =>
        refine ⟨_, rfl, .word [] ['1'] [] ['1'] ?_ ?_ ?_ ?_⟩
        · decide +kernel
        · exact .cons (.inl rfl) .nil
        · simp [Blank]
        · simp [Blank]
  · apply reads.2
    intro Value setting
    cases setting with
    | exactByDefault =>
        refine .snake rfl ?_
        rintro data ⟨⟩
        rfl
    | logLimit => exact .camel rfl
    | logEnabled => exact .camel rfl
    | literalFirstWord =>
        refine .snake rfl ?_
        rintro data ⟨⟩

end Configuration

end CommandWords
