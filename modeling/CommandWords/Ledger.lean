/-
This file defines the ledger of lookups: running counters and a bounded log of events.
-/

import CommandWords.Message
import CommandWords.Number.Basic

namespace CommandWords

inductive Ledger.Event where
  | hit (label : String) (index : Number)
  | scan (label value : String) (index comparisons : Number)
  | fail (label value : String) (misfit : Message.Misfit) (comparisons : Number)
deriving DecidableEq, Repr

/-- The three kinds of events. -/
inductive Ledger.Event.Kind where
  | hit
  | scan
  | fail
deriving DecidableEq, Repr

def Ledger.Event.kind : Ledger.Event → Kind
  | hit _ _ => .hit
  | scan _ _ _ _ => .scan
  | fail _ _ _ _ => .fail

structure Ledger.Counters where
  hits : Nat
  scans : Nat
  comparisons : Number
  failures : Nat
deriving DecidableEq, Repr

def Ledger.Counters.zero : Ledger.Counters := ⟨0, 0, 0, 0⟩

def Ledger.Counters.count (counters : Ledger.Counters) : Ledger.Event → Ledger.Counters
  | .hit _ _ => { counters with hits := counters.hits + 1 }
  | .scan _ _ _ comparisons =>
      { counters with
        scans := counters.scans + 1
        comparisons := counters.comparisons.add comparisons }
  | .fail _ _ _ comparisons =>
      { counters with
        failures := counters.failures + 1
        comparisons := counters.comparisons.add comparisons }

structure Ledger where
  /-- The greatest number of logged events, if there is one. -/
  limit : Option Nat
  enabled : Bool
  /-- The oldest event comes first. -/
  log : Array Ledger.Event
  counters : Ledger.Counters
deriving DecidableEq, Repr

namespace Ledger

/-- Fractions of an event do not count, and a negative limit is zero. Without a number there is no
limit. -/
def limitOf : Number → Option Nat
  | .nan => none
  | .infinite negative => if negative then some 0 else none
  | .finite negative magnitude => some (if negative then 0 else magnitude / Number.unit)

def initial : Ledger := ⟨some 1000, true, #[], .zero⟩

def events (ledger : Ledger) : List Ledger.Event := ledger.log.toList

/-- The latest events that a limit leaves. -/
def latest (limit : Option Nat) (events : List Ledger.Event) : List Ledger.Event :=
  match limit with
  | none => events
  | some limit => events.drop (events.length - limit)

/-- The oldest events are dropped first. -/
def trim (ledger : Ledger) : Ledger :=
  match ledger.limit with
  | none => ledger
  | some limit =>
      if ledger.log.size ≤ limit then ledger
      else { ledger with log := ledger.log.extract (ledger.log.size - limit) }

theorem events_trim (ledger : Ledger) :
    ledger.trim.events = latest ledger.limit ledger.events := by
  cases bounded : ledger.limit with
  | none => simp [trim, latest, bounded]
  | some limit =>
      by_cases fits : ledger.log.size ≤ limit
      · have none_dropped : ledger.events.length - limit = 0 := by
          simp only [events, Array.length_toList]
          omega
        simp only [trim, latest, bounded, if_pos fits, none_dropped, List.drop_zero]
      · simp [trim, latest, events, bounded, fits, List.take_of_length_le]

/-- A setting that is not given stays. -/
def configure (ledger : Ledger) (limit : Option Number) (enabled : Option Bool) : Ledger :=
  let limited :=
    match limit with
    | none => ledger
    | some number => trim { ledger with limit := limitOf number }
  { limited with enabled := enabled.getD limited.enabled }

/-- Counters are kept even while logging is off. -/
def record (ledger : Ledger) (event : Ledger.Event) : Ledger :=
  let counted := { ledger with counters := ledger.counters.count event }
  if counted.enabled then trim { counted with log := counted.log.push event } else counted

theorem events_record {ledger : Ledger} (enabled : ledger.enabled = true)
    (event : Ledger.Event) :
    (ledger.record event).events = latest ledger.limit (ledger.events ++ [event]) := by
  simp only [record, enabled, if_true, events_trim]
  simp [events]

theorem counters_trim (ledger : Ledger) : ledger.trim.counters = ledger.counters := by
  unfold trim
  split
  next => rfl
  next => split <;> rfl

/-- Every event is counted, logged or not. -/
theorem counters_record (ledger : Ledger) (event : Ledger.Event) :
    (ledger.record event).counters = ledger.counters.count event := by
  unfold record
  dsimp only
  split
  next => rw [counters_trim]
  next => rfl

/-- The latest events, as many as asked for. -/
def recent (ledger : Ledger) (limit : Number) : List Ledger.Event :=
  if limit.atMost 0 then []
  else ledger.events.drop (limit.negate.position ledger.events.length)

def count (ledger : Ledger) (kind : Ledger.Event.Kind) : Nat :=
  (ledger.events.filter fun event => event.kind = kind).length

def clear (ledger : Ledger) : Ledger := { ledger with log := #[], counters := .zero }

end Ledger

end CommandWords
