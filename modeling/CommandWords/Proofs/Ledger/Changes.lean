/-
This file says what each change of a ledger does to its limit, its log and its counters.
-/

import CommandWords.Ledger

namespace CommandWords.Ledger

theorem latest_suffix (limit : Option Nat) (events : List Event) :
    latest limit events <:+ events := by
  cases limit with
  | none => exact List.suffix_rfl
  | some bound => exact List.drop_suffix _ _

theorem limit_trim (ledger : Ledger) : ledger.trim.limit = ledger.limit := by
  unfold trim
  split
  next => rfl
  next => split <;> rfl

theorem enabled_trim (ledger : Ledger) : ledger.trim.enabled = ledger.enabled := by
  unfold trim
  split
  next => rfl
  next => split <;> rfl

theorem limit_record (ledger : Ledger) (event : Event) :
    (ledger.record event).limit = ledger.limit := by
  unfold record
  dsimp only
  split
  next => rw [limit_trim]
  next => rfl

theorem enabled_record (ledger : Ledger) (event : Event) :
    (ledger.record event).enabled = ledger.enabled := by
  unfold record
  dsimp only
  split
  next => rw [enabled_trim]
  next => rfl

/-- The log grows by an event only while events are logged. -/
theorem events_record_eq (ledger : Ledger) (event : Ledger.Event) :
    (ledger.record event).events =
      if ledger.enabled then latest ledger.limit (ledger.events ++ [event])
      else ledger.events := by
  cases enabled : ledger.enabled with
  | true => exact events_record enabled event
  | false => simp [record, enabled, events]

/-- Only a limit that is given cuts the log. -/
theorem events_configure (ledger : Ledger) (limit : Option Number) (enabled : Option Bool) :
    (ledger.configure limit enabled).events =
      match limit with
      | none => ledger.events
      | some number => latest (limitOf number) ledger.events := by
  cases limit with
  | none => rfl
  | some number => exact events_trim { ledger with limit := limitOf number }

/-- The log may be cut, but the counters stay. -/
theorem counters_configure (ledger : Ledger) (limit : Option Number) (enabled : Option Bool) :
    (ledger.configure limit enabled).counters = ledger.counters := by
  cases limit with
  | none => rfl
  | some number => exact counters_trim _

end CommandWords.Ledger
