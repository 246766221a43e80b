/-
This file calls the hooks of value types. Every call is noted before the hook runs.
-/

import CommandWords.Value.ResolutionType
import CommandWords.State

namespace CommandWords

variable {Data : Type}

/-- A new object gets an identity of its own. -/
def State.addObject (state : State Data) (content : Content Data) : State Data :=
  { state with objects := state.objects.add content }

def State.setObject (state : State Data) (payload : Payload Data) (content : Content Data) :
    State Data :=
  match payload with
  | .object reference => { state with objects := state.objects.set reference content }
  | .plain _ => state

namespace Action

def make : Made Data → Action Data (Payload Data)
  | .object content => do
      let before ← state
      change fun present => present.addObject content
      pure (.object before.objects.next)
  | .existing payload => pure payload

/-- The arguments of a call with their contents, after the call is noted. -/
def noteCall (type : TypeId) (hook : Hook) (arguments : List (Argument Data)) :
    Action Data (View Data) := do
  change fun present => { present with calls := ⟨type, hook, arguments⟩ :: present.calls }
  let present ← state
  pure present.view

def callFree (catalogue : Catalogue Data) (representation : Representation Data) :
    Action Data Unit := do
  let argument := (← state).argument representation.payload
  let view ← noteCall representation.type .free [argument]
  ofResult ((catalogue.describe representation.type).free view argument)

def callDuplicate (catalogue : Catalogue Data) (representation : Representation Data) :
    Action Data (Payload Data) := do
  let argument := (← state).argument representation.payload
  let view ← noteCall representation.type .duplicate [argument]
  let made ← ofResult ((catalogue.describe representation.type).duplicate view argument)
  make made

def callRegenerate (catalogue : Catalogue Data) (representation : Representation Data) :
    Action Data String := do
  let argument := (← state).argument representation.payload
  let view ← noteCall representation.type .regenerate [argument]
  ofResult ((catalogue.describe representation.type).regenerate view argument)

/-- The target takes over the content that the hook computes. -/
def callAssign (type : TypeId)
    (assign : View Data → Argument Data → Argument Data → Except Fault (Content Data))
    (target source : Payload Data) : Action Data Unit := do
  let present ← state
  let targetArgument := present.argument target
  let sourceArgument := present.argument source
  let view ← noteCall type .assign [targetArgument, sourceArgument]
  let content ← ofResult (assign view targetArgument sourceArgument)
  change fun later => later.setObject target content

/-- The conversion may ask for the text. -/
def callConvert (catalogue : Catalogue Data) (type : TypeId) (text : Action Data String) :
    Action Data (Outcome (Made Data)) := do
  let view ← noteCall type .convert []
  match (catalogue.describe type).convert view with
  | .decided result => ofResult result
  | .fromText result => do
      let found ← text
      ofResult (result found)

end Action

end CommandWords
