/-
This file defines the values of a data text. The fields of an object have different names.
-/

import CommandWords.Fields
import CommandWords.Number.Basic

namespace CommandWords

inductive Json where
  | null
  | bool (value : Bool)
  | number (value : Number)
  | text (value : String)
  | array (elements : List Json)
  | object (fields : List (String × Json))
deriving Repr, Inhabited

namespace Json

def fields? : Json → Option (Fields Json)
  | object fields => some fields
  | _ => none

/-- A value that is not an object has no fields. -/
def field? (value : Json) (name : String) : Option Json :=
  value.fields?.bind (List.lookup name)

def bool? : Json → Option Bool
  | bool value => some value
  | _ => none

def number? : Json → Option Number
  | number value => some value
  | _ => none

def text? : Json → Option String
  | text value => some value
  | _ => none

def elements? : Json → Option (List Json)
  | array elements => some elements
  | _ => none

/-- The object of the fields that have a value. -/
def ofOptions (fields : List (String × Option Json)) : Json :=
  object (fields.filterMap fun field => field.2.map fun value => (field.1, value))

end Json

end CommandWords
