/-
This file defines the settings of lookups and usage messages and the changes that are merged into
them.
-/

import CommandWords.Number.Text

namespace CommandWords

structure LookupSettings where
  /-- Abbreviations are refused unless a call asks for them. -/
  exactByDefault : Bool
  /-- The greatest number of logged lookup events. -/
  logLimit : Number
  logEnabled : Bool
deriving DecidableEq, Repr

structure UsageSettings where
  /-- The first word of a usage message is never quoted. -/
  literalFirstWord : Bool
deriving DecidableEq, Repr

structure Configuration where
  lookup : LookupSettings
  usage : UsageSettings
deriving DecidableEq, Repr

namespace Configuration

def standard : Configuration where
  lookup := ⟨false, 1000, true⟩
  usage := ⟨false⟩

/-- Changes give some of the settings. -/
structure LookupChanges where
  exactByDefault : Option Bool
  logLimit : Option Number
  logEnabled : Option Bool
deriving DecidableEq, Repr

structure UsageChanges where
  literalFirstWord : Option Bool
deriving DecidableEq, Repr

structure Changes where
  lookup : LookupChanges
  usage : UsageChanges
deriving DecidableEq, Repr

def Changes.empty : Changes := ⟨⟨none, none, none⟩, ⟨none⟩⟩

/-- A setting that is not given stays. -/
def apply (configuration : Configuration) (changes : Changes) : Configuration where
  lookup :=
    { exactByDefault :=
        changes.lookup.exactByDefault.getD configuration.lookup.exactByDefault
      logLimit := changes.lookup.logLimit.getD configuration.lookup.logLimit
      logEnabled := changes.lookup.logEnabled.getD configuration.lookup.logEnabled }
  usage :=
    { literalFirstWord :=
        changes.usage.literalFirstWord.getD configuration.usage.literalFirstWord }

/-- Later changes win over earlier ones. -/
def merge (configuration : Configuration) (changes : List Changes) : Configuration :=
  changes.foldl apply configuration

/-- The log limit has to be a natural number. -/
def problems (configuration : Configuration) : List String :=
  let limit := configuration.lookup.logLimit
  if limit.isInteger && !limit.lessThan 0 then []
  else ["lookup.logLimit must be a non-negative integer, got " ++ limit.text]

def isValid (configuration : Configuration) : Bool := configuration.problems.isEmpty

end Configuration

end CommandWords
