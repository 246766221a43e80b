/-
This file loads settings from their sources. Given changes win over the file, the file wins over
the environment, and the environment wins over the standard settings.
-/

import CommandWords.Configuration.Environment
import CommandWords.Configuration.Files
import CommandWords.Configuration.Object
import CommandWords.Json.Reader
import CommandWords.Text.LowerCase

namespace CommandWords.Configuration

inductive FileError where
  | notFound (path : String)
  | unknownFormat (extension : String)
  | unreadable
  | malformed
  | notObject (path : String)
deriving DecidableEq, Repr

/-- The platform words the errors of reading and of the data grammar. -/
def FileError.message? : FileError → Option String
  | notFound path => some ("Config file not found: " ++ path)
  | unknownFormat extension => some ("Unsupported config file format: " ++ extension)
  | unreadable => none
  | malformed => none
  | notObject path => some ("Config file must contain a JSON object: " ++ path)

def fileExtension : String := ".json"

/-- The changes that a file asks for. -/
def Changes.ofFile (files : Files) (path : String) : Except FileError Changes :=
  match files path with
  | none => .error (.notFound path)
  | some entry =>
      let found := String.ofList (Text.lowerCase (extension path))
      if found ≠ fileExtension then .error (.unknownFormat found)
      else
        match entry with
        | .unreadable => .error .unreadable
        | .file content =>
            match Json.read? content with
            | none => .error .malformed
            | some (.object fields) => .ok (Changes.ofFields fields)
            | some _ => .error (.notObject path)

/-- The files that are looked for when no file is named. -/
def standardFiles : List String := ["keyrep.config.json"]

/-- Environment variables begin with this name. -/
def standardName : String := "KEYREP"

/-- The one file that is read. An empty name names no file. -/
def chosenFile (files : Files) (file : Option String) : Option String :=
  match file.filter (· ≠ "") with
  | some path => some path
  | none => standardFiles.find? fun path => (files path).isSome

def load (files : Files) (environment : Environment) (file : Option String)
    (changes : Option Changes) : Except FileError Configuration := do
  let fromFile ←
    match chosenFile files file with
    | some path => (Changes.ofFile files path).map some
    | none => .ok none
  .ok ((ofEnvironment standardName environment).merge (fromFile.toList ++ changes.toList))

end CommandWords.Configuration
