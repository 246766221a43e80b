/-
This file reads changes of settings from an object and writes settings as an object. Every setting
has two spellings for reading, and the first one is written.
-/

import CommandWords.Configuration.Basic
import CommandWords.Json.Basic

namespace CommandWords.Configuration

/-- The first value of the right kind under one of the names. -/
def pick? {Value : Type} (kind? : Json → Option Value) (fields : Fields Json) :
    List String → Option Value
  | [] => none
  | name :: rest =>
      match (fields.lookup name).bind kind? with
      | some value => some value
      | none => pick? kind? fields rest

/-- The fields of a group. A group that is not an object gives no settings. -/
def group (fields : Fields Json) (name : String) : Fields Json :=
  ((fields.lookup name).bind Json.fields?).getD []

def Changes.ofFields (fields : Fields Json) : Changes :=
  let lookup := group fields "lookup"
  let usage := group fields "usage"
  { lookup :=
      { exactByDefault := pick? Json.bool? lookup ["exactByDefault", "exact_by_default"]
        logLimit := pick? Json.number? lookup ["logLimit", "log_limit"]
        logEnabled := pick? Json.bool? lookup ["logEnabled", "log_enabled"] }
    usage :=
      { literalFirstWord :=
          pick? Json.bool? usage ["literalFirstWord", "literal_first_word"] } }

/-- Settings that are not given are left out. -/
def Changes.toJson (changes : Changes) : Json :=
  .object
    [("lookup", Json.ofOptions
        [("exactByDefault", changes.lookup.exactByDefault.map .bool),
          ("logLimit", changes.lookup.logLimit.map .number),
          ("logEnabled", changes.lookup.logEnabled.map .bool)]),
      ("usage", Json.ofOptions
        [("literalFirstWord", changes.usage.literalFirstWord.map .bool)])]

/-- The changes that give every setting of a configuration. -/
def toChanges (configuration : Configuration) : Changes :=
  { lookup :=
      { exactByDefault := some configuration.lookup.exactByDefault
        logLimit := some configuration.lookup.logLimit
        logEnabled := some configuration.lookup.logEnabled }
    usage := { literalFirstWord := some configuration.usage.literalFirstWord } }

def toJson (configuration : Configuration) : Json := configuration.toChanges.toJson

end CommandWords.Configuration
