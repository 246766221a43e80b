/-
This file defines each setting by its names in every source and proves where its value comes from:
the given changes, the one file, the environment and the standard settings, in this order and for
each setting on its own.
-/

import CommandWords.Configuration.Load
import CommandWords.Proofs.Text.LetterCase

namespace CommandWords.Configuration

inductive Kind : Type → Type where
  | flag : Kind Bool
  | number : Kind Number

namespace Kind

variable {Value : Type}

def ofJson? : Kind Value → Json → Option Value
  | flag => Json.bool?
  | number => Json.number?

def ofText? : Kind Value → String → Option Value
  | flag => readBool?
  | number => readInteger?

end Kind

inductive Setting : Type → Type where
  | exactByDefault : Setting Bool
  | logLimit : Setting Number
  | logEnabled : Setting Bool
  | literalFirstWord : Setting Bool

namespace Setting

variable {Value : Type}

def kind : Setting Value → Kind Value
  | exactByDefault => .flag
  | logLimit => .number
  | logEnabled => .flag
  | literalFirstWord => .flag

def group : Setting Value → String
  | exactByDefault => "lookup"
  | logLimit => "lookup"
  | logEnabled => "lookup"
  | literalFirstWord => "usage"

def camelName : Setting Value → String
  | exactByDefault => "exactByDefault"
  | logLimit => "logLimit"
  | logEnabled => "logEnabled"
  | literalFirstWord => "literalFirstWord"

def snakeName : Setting Value → String
  | exactByDefault => "exact_by_default"
  | logLimit => "log_limit"
  | logEnabled => "log_enabled"
  | literalFirstWord => "literal_first_word"

def variableName : Setting Value → String
  | exactByDefault => "KEYREP_EXACT"
  | logLimit => "KEYREP_LOG_LIMIT"
  | logEnabled => "KEYREP_LOG_ENABLED"
  | literalFirstWord => "KEYREP_LITERAL_FIRST_WORD"

def standard : Setting Value → Value
  | exactByDefault => false
  | logLimit => 1000
  | logEnabled => true
  | literalFirstWord => false

/-- The value that a configuration has. -/
def of : Setting Value → Configuration → Value
  | exactByDefault => fun configuration => configuration.lookup.exactByDefault
  | logLimit => fun configuration => configuration.lookup.logLimit
  | logEnabled => fun configuration => configuration.lookup.logEnabled
  | literalFirstWord => fun configuration => configuration.usage.literalFirstWord

/-- The value that changes give. -/
def given? : Setting Value → Changes → Option Value
  | exactByDefault => fun changes => changes.lookup.exactByDefault
  | logLimit => fun changes => changes.lookup.logLimit
  | logEnabled => fun changes => changes.lookup.logEnabled
  | literalFirstWord => fun changes => changes.usage.literalFirstWord

/-- The value under one name, if it is of the right kind. -/
def under? (setting : Setting Value) (data : Json) (name : String) : Option Value :=
  ((data.field? setting.group).bind fun part => part.field? name).bind setting.kind.ofJson?

/-- The snake case name counts if the camel case name gives nothing. -/
def inData? (setting : Setting Value) (data : Json) : Option Value :=
  (setting.under? data setting.camelName).or (setting.under? data setting.snakeName)

end Setting

/-- The text of the file at a path. -/
def Files.content? (files : Files) (path : String) : Option String :=
  match files path with
  | some (.file content) => some content
  | _ => none

namespace Setting

variable {Value : Type}

def inFile? (setting : Setting Value) (files : Files) (path : String) : Option Value :=
  ((files.content? path).bind Json.read?).bind setting.inData?

def inEnvironment? (setting : Setting Value) (environment : Environment) : Option Value :=
  (environment.lookup setting.variableName).bind setting.kind.ofText?

/-- The value of the first source that gives one. -/
def layered (setting : Setting Value) (files : Files) (environment : Environment)
    (source : Option String) (changes : Option Changes) : Value :=
  (((changes.bind setting.given?).or (source.bind (setting.inFile? files))).or
    (setting.inEnvironment? environment)).getD setting.standard

/-- The values of the settings are all that a configuration holds. -/
theorem eq_of_values {first second : Configuration}
    (same : ∀ {Value : Type} (setting : Setting Value), setting.of first = setting.of second) :
    first = second := by
  obtain ⟨⟨exactByDefault, logLimit, logEnabled⟩, ⟨literalFirstWord⟩⟩ := first
  obtain rfl : exactByDefault = _ := same .exactByDefault
  obtain rfl : logLimit = _ := same .logLimit
  obtain rfl : logEnabled = _ := same .logEnabled
  obtain rfl : literalFirstWord = _ := same .literalFirstWord
  rfl

theorem of_apply (setting : Setting Value) (configuration : Configuration) (changes : Changes) :
    setting.of (configuration.apply changes) =
      (setting.given? changes).getD (setting.of configuration) := by
  cases setting <;> rfl

/-- What the last changes that give a setting give. -/
def lastGiven? (setting : Setting Value) (changes : List Changes) : Option Value :=
  changes.reverse.findSome? setting.given?

theorem lastGiven?_append (setting : Setting Value) (first second : List Changes) :
    setting.lastGiven? (first ++ second) =
      (setting.lastGiven? second).or (setting.lastGiven? first) := by
  simp only [lastGiven?, List.reverse_append, List.findSome?_append]

theorem lastGiven?_singleton (setting : Setting Value) (changes : Changes) :
    setting.lastGiven? [changes] = setting.given? changes := by
  simp only [lastGiven?, List.reverse_singleton, List.findSome?_singleton]

theorem lastGiven?_cons (setting : Setting Value) (first : Changes) (rest : List Changes) :
    setting.lastGiven? (first :: rest) = (setting.lastGiven? rest).or (setting.given? first) := by
  rw [← List.singleton_append, lastGiven?_append, lastGiven?_singleton]

/-- The last changes that give a setting decide. -/
theorem of_merge (setting : Setting Value) (configuration : Configuration)
    (changes : List Changes) :
    setting.of (configuration.merge changes) =
      (setting.lastGiven? changes).getD (setting.of configuration) := by
  induction changes generalizing configuration with
  | nil => rfl
  | cons first rest inductionHypothesis =>
    have step := inductionHypothesis (configuration.apply first)
    rw [of_apply] at step
    rw [lastGiven?_cons, Option.getD_or, ← step]
    rfl

theorem of_ofEnvironment (setting : Setting Value) (environment : Environment) :
    setting.of (ofEnvironment standardName environment) =
      (setting.inEnvironment? environment).getD setting.standard := by
  cases setting <;> rfl

/-- Changes of a file and given changes on top of the environment. -/
theorem of_merge_sources (setting : Setting Value) (environment : Environment)
    (fromFile changes : Option Changes) :
    setting.of ((ofEnvironment standardName environment).merge
        (fromFile.toList ++ changes.toList)) =
      (((changes.bind setting.given?).or (fromFile.bind setting.given?)).or
        (setting.inEnvironment? environment)).getD setting.standard := by
  have given (source : Option Changes) :
      setting.lastGiven? source.toList = source.bind setting.given? := by
    cases source with
    | none => rfl
    | some changes => exact setting.lastGiven?_singleton changes
  rw [of_merge, of_ofEnvironment, lastGiven?_append, given, given, ← Option.getD_or]

theorem under?_eq (setting : Setting Value) (fields : Fields Json) (name : String) :
    setting.under? (.object fields) name =
      ((Configuration.group fields setting.group).lookup name).bind setting.kind.ofJson? := by
  have found : (Json.object fields).field? setting.group = fields.lookup setting.group := rfl
  unfold under? Configuration.group
  rw [found]
  cases fields.lookup setting.group with
  | none => rfl
  | some part => cases part <;> rfl

theorem pick?_pair (kind? : Json → Option Value) (fields : Fields Json) (first second : String) :
    pick? kind? fields [first, second] =
      ((fields.lookup first).bind kind?).or ((fields.lookup second).bind kind?) := by
  simp only [pick?]
  cases (fields.lookup first).bind kind? with
  | some value => rfl
  | none => cases (fields.lookup second).bind kind? <;> rfl

theorem given?_ofFields (setting : Setting Value) (fields : Fields Json) :
    setting.given? (Changes.ofFields fields) = setting.inData? (.object fields) := by
  unfold inData?
  rw [under?_eq, under?_eq, ← pick?_pair]
  cases setting <;> rfl

end Setting

/-- The one file that is read: the named one, or else the standard one if it exists. -/
inductive Chooses (files : Files) (file : Option String) : Option String → Prop where
  | named (path : String) (given : file = some path) (proper : path ≠ "") :
      Chooses files file (some path)
  | standard (unnamed : file.getD "" = "") (found : files "keyrep.config.json" ≠ none) :
      Chooses files file (some "keyrep.config.json")
  | nothing (unnamed : file.getD "" = "") (missing : files "keyrep.config.json" = none) :
      Chooses files file none

theorem chooses_chosenFile (files : Files) (file : Option String) :
    Chooses files file (chosenFile files file) := by
  have without (unnamed : file.getD "" = "") (none_ : file.filter (· ≠ "") = none) :
      Chooses files file (chosenFile files file) := by
    unfold chosenFile standardFiles
    rw [none_]
    cases found : files "keyrep.config.json" with
    | none =>
      simp only [List.find?, found, Option.isSome_none]
      exact .nothing unnamed found
    | some entry =>
      simp only [List.find?, found, Option.isSome_some]
      exact .standard unnamed (by rw [found]; simp)
  cases file with
  | none => exact without rfl rfl
  | some path =>
    by_cases proper : path = ""
    · rw [proper] at without ⊢
      exact without rfl rfl
    · have kept : (some path).filter (· ≠ "") = some path := by simp [proper]
      unfold chosenFile
      rw [kept]
      exact .named path rfl proper

/-- The extension of a path is `.json` in any letter case. -/
def IsJson (path : String) : Prop :=
  (extension path).map Char.toLower = ".json".toList

/-- The ways in which a file is refused. -/
inductive Refuses (files : Files) (path : String) : FileError → Prop where
  | missing (absent : files path = none) : Refuses files path (.notFound path)
  | format (found : files path ≠ none) (other : ¬ IsJson path) :
      Refuses files path (.unknownFormat (String.ofList (Text.lowerCase (extension path))))
  | unreadable (json : IsJson path) (found : files path = some .unreadable) :
      Refuses files path .unreadable
  | malformed (content : String) (json : IsJson path)
      (found : files path = some (.file content))
      (malformed : Json.read? content = none) : Refuses files path .malformed
  | notObject (content : String) (data : Json) (json : IsJson path)
      (found : files path = some (.file content))
      (read : Json.read? content = some data) (other : data.fields? = none) :
      Refuses files path (.notObject path)

theorem isJson_iff (path : String) :
    IsJson path ↔ String.ofList (Text.lowerCase (extension path)) = fileExtension := by
  have basic : Text.Basic ".json".toList := by
    have characters : ".json".toList = ['.', 'j', 's', 'o', 'n'] := rfl
    simp [Text.Basic, characters]
  rw [IsJson, ← Text.lowerCase_eq_iff basic]
  constructor
  · intro same
    rw [same]
    rfl
  · intro same
    rw [← String.toList_ofList (l := Text.lowerCase (extension path)), same]
    rfl

theorem ofFile_of_refuses {files : Files} {path : String} {error : FileError}
    (refused : Refuses files path error) : Changes.ofFile files path = .error error := by
  unfold Changes.ofFile
  cases refused with
  | missing absent => rw [absent]
  | format found other =>
    obtain ⟨entry, found⟩ := Option.ne_none_iff_exists'.mp found
    simp only [found]
    exact if_pos (mt (isJson_iff path).mpr other)
  | unreadable json found =>
    simp only [found, (isJson_iff path).mp json, ne_eq, not_true_eq_false, if_false]
  | malformed content json found malformed =>
    simp only [found, (isJson_iff path).mp json, malformed, ne_eq, not_true_eq_false, if_false]
  | notObject content data json found read other =>
    simp only [found, (isJson_iff path).mp json, read, ne_eq, not_true_eq_false, if_false]
    cases data with
    | object fields => cases other
    | _ => rfl

/-- A file that is not refused holds an object, and its changes are those of the object. -/
theorem refuses_or_ofFile (files : Files) (path : String) :
    (∃ error, Refuses files path error) ∨
      ∃ content fields, files.content? path = some content ∧
        Json.read? content = some (.object fields) ∧
        Changes.ofFile files path = .ok (Changes.ofFields fields) := by
  cases found : files path with
  | none => exact .inl ⟨_, .missing found⟩
  | some entry =>
    by_cases json : IsJson path
    case neg => exact .inl ⟨_, .format (by rw [found]; simp) json⟩
    cases entry with
    | unreadable => exact .inl ⟨_, .unreadable json found⟩
    | file content =>
      cases read : Json.read? content with
      | none => exact .inl ⟨_, .malformed content json found read⟩
      | some data =>
        cases proper : data.fields? with
        | none => exact .inl ⟨_, .notObject content data json found read proper⟩
        | some fields =>
          right
          have object : data = .object fields := by
            cases data <;> cases proper
            rfl
          rw [object] at read
          refine ⟨content, fields, by simp only [Files.content?, found], read, ?_⟩
          simp only [Changes.ofFile, found, (isJson_iff path).mp json, read, ne_eq,
            not_true_eq_false, if_false]

theorem ofFile_error_iff (files : Files) (path : String) (error : FileError) :
    Changes.ofFile files path = .error error ↔ Refuses files path error := by
  constructor
  · intro failed
    obtain ⟨other, refused⟩ | ⟨content, fields, _, _, made⟩ := refuses_or_ofFile files path
    · rw [ofFile_of_refuses refused] at failed
      exact Except.error.inj failed ▸ refused
    · rw [made] at failed
      cases failed
  · exact ofFile_of_refuses

theorem given?_of_ofFile {Value : Type} (setting : Setting Value) {files : Files}
    {path : String} {changes : Changes} (made : Changes.ofFile files path = .ok changes) :
    setting.given? changes = setting.inFile? files path := by
  obtain ⟨error, refused⟩ | ⟨content, fields, found, read, result⟩ := refuses_or_ofFile files path
  · rw [ofFile_of_refuses refused] at made
    cases made
  · rw [result] at made
    rw [← Except.ok.inj made, setting.given?_ofFields, Setting.inFile?, found, Option.bind_some,
      read, Option.bind_some]

theorem load_of_nothing {files : Files} {environment : Environment} {file : Option String}
    {changes : Option Changes} (chosen : chosenFile files file = none) :
    load files environment file changes =
      .ok ((ofEnvironment standardName environment).merge
        ((none : Option Changes).toList ++ changes.toList)) := by
  unfold load
  rw [chosen]
  rfl

theorem load_of_file {files : Files} {environment : Environment} {file : Option String}
    {changes : Option Changes} {path : String} (chosen : chosenFile files file = some path) :
    load files environment file changes =
      (Changes.ofFile files path).map fun fromFile =>
        (ofEnvironment standardName environment).merge
          ((some fromFile).toList ++ changes.toList) := by
  unfold load
  rw [chosen]
  dsimp only
  cases Changes.ofFile files path <;> rfl

/-- What the sources say about the result of loading. -/
structure Layered (files : Files) (environment : Environment) (file : Option String)
    (changes : Option Changes) (source : Option String)
    (result : Except FileError Configuration) : Prop where
  chosen : Chooses files file source
  /-- Every setting has the value of the first source that gives one, whatever the sources give
  for the other settings. -/
  value : ∀ configuration, result = .ok configuration →
    ∀ {Value : Type} (setting : Setting Value),
      setting.of configuration = setting.layered files environment source changes
  /-- Loading fails exactly as the one file is refused. -/
  fails : ∀ error, result = .error error ↔ ∃ path, source = some path ∧ Refuses files path error
  /-- Only a named file can be missing. -/
  missing : ∀ path, result = .error (.notFound path) → file = some path

/-- Every setting has the value of the first source that gives one, whatever the platform's files,
and loading fails exactly where the one file that is read is refused. -/
theorem load_layered (files : Files) (environment : Environment) (file : Option String)
    (changes : Option Changes) :
    Layered files environment file changes (chosenFile files file)
      (load files environment file changes) := by
  have chosen := chooses_chosenFile files file
  cases source : chosenFile files file with
  | none =>
    rw [load_of_nothing source]
    refine ⟨source ▸ chosen, ?_, ?_, ?_⟩
    · intro configuration same Value setting
      rw [← Except.ok.inj same, setting.of_merge_sources]
      rfl
    · simp
    · simp
  | some path =>
    rw [load_of_file source]
    rw [source] at chosen
    cases made : Changes.ofFile files path with
    | error error =>
      have refused := (ofFile_error_iff files path error).mp made
      refine ⟨chosen, by simp [Except.map], ?_, ?_⟩
      · intro other
        simp only [Except.map, Except.error.injEq, Option.some.injEq, exists_eq_left',
          ← ofFile_error_iff, made]
      · intro missing same
        simp only [Except.map, Except.error.injEq] at same
        rw [same] at refused
        cases refused with
        | missing absent =>
          cases chosen with
          | named _ given _ => exact given
          | standard _ found => exact absurd absent found
    | ok fromFile =>
      refine ⟨chosen, ?_, ?_, by simp [Except.map]⟩
      · intro configuration same Value setting
        rw [← Except.ok.inj same, setting.of_merge_sources, Option.bind_some,
          given?_of_ofFile setting made]
        rfl
      · intro error
        simp only [Except.map, Option.some.injEq, exists_eq_left', ← ofFile_error_iff, made,
          reduceCtorEq]

/-- The named file gives the limit by its other name and hides nothing by a value of another kind.
The standard file is not read beside it. -/
example :
    let files : Files := fun path =>
      if path = "/etc/words.json" then
        some (.file "\x7b\"lookup\":\x7b\"exactByDefault\":1,\"log_limit\":5\x7d,\"colour\":0\x7d")
      else if path = "keyrep.config.json" then some .unreadable
      else none
    (load files [("KEYREP_EXACT", "on"), ("KEYREP_LOG_LIMIT", "7")] (some "/etc/words.json")
      (some ⟨⟨none, none, some false⟩, ⟨none⟩⟩)).toOption = some ⟨⟨true, 5, false⟩, ⟨false⟩⟩ := by
  decide +kernel

end CommandWords.Configuration
