/-
This file shows that the log of a ledger is a bounded end of the events that were recorded, however
its limit changes.
-/

import CommandWords.Proofs.Ledger.Changes
import CommandWords.Proofs.Number.Counts

namespace CommandWords.Ledger

/-- The greatest number of events that a limit allows: its whole part, or none below zero. -/
def capacity : Number → Option Nat
  | .nan => none
  | .infinite negative => if negative then some 0 else none
  | .finite negative magnitude =>
      some ((Number.signedUnits negative magnitude).fdiv Number.unit).toNat

/-- As many of some events as there is room for. -/
def roomFor (capacity : Option Nat) (count : Nat) : Nat :=
  match capacity with
  | none => count
  | some bound => min bound count

/-- What a caller does to a ledger. -/
inductive Move where
  | record (event : Event)
  | configure (limit : Option Number) (enabled : Option Bool)
  | clear

def Move.apply (ledger : Ledger) : Move → Ledger
  | record event => ledger.record event
  | configure limit enabled => ledger.configure limit enabled
  | clear => ledger.clear

/-- The ledger after some moves from the start. The latest move comes first. -/
def run : List Move → Ledger
  | [] => .initial
  | move :: earlier => move.apply (run earlier)

/-- The limit that was given last. -/
def givenLimit : List Move → Number
  | [] => 1000
  | .configure (some limit) _ :: _ => limit
  | _ :: earlier => givenLimit earlier

/-- Whether logging was switched on last. -/
def switchedOn : List Move → Bool
  | [] => true
  | .configure _ (some enabled) :: _ => enabled
  | _ :: earlier => switchedOn earlier

/-- The events since the ledger was cleared, except for those while logging was off. The oldest
event comes first. -/
def recorded : List Move → List Event
  | [] => []
  | .clear :: _ => []
  | .configure _ _ :: earlier => recorded earlier
  | .record event :: earlier =>
      if switchedOn earlier then recorded earlier ++ [event] else recorded earlier

/-- The counter of one kind of events. -/
def Counters.ofKind (counters : Counters) : Event.Kind → Nat
  | .hit => counters.hits
  | .scan => counters.scans
  | .fail => counters.failures

/-- The ledger logs the latest of the events that some moves record. -/
structure LogsLatest (ledger : Ledger) (moves : List Move) : Prop where
  bounded : ∀ bound, capacity (givenLimit moves) = some bound → ledger.events.length ≤ bound
  latest : ledger.events <:+ recorded moves
  /-- Once an event is dropped, it stays away. -/
  dropped : ∀ later past, later ++ past = moves → Move.clear ∉ later →
    ∃ added, recorded moves = recorded past ++ added ∧
      ledger.events <:+ (run past).events ++ added
  /-- As long as the capacity stays, no more events are dropped than it demands. -/
  full : ∀ later since, later ++ since = moves → (since = [] ∨ since.head? = some .clear) →
    (∀ part, part <:+ later →
      capacity (givenLimit (part ++ since)) = capacity (givenLimit moves)) →
      ledger.events.length = roomFor (capacity (givenLimit moves)) (recorded moves).length
  /-- The latest events are given oldest first. -/
  recent : ∀ count, 0 < count →
    ledger.recent (.natural count) <:+ ledger.events ∧
      (ledger.recent (.natural count)).length = min count ledger.events.length
  kinds : ledger.count .hit + ledger.count .scan + ledger.count .fail = ledger.events.length
  counted : ∀ kind, ledger.count kind ≤ ledger.counters.ofKind kind

theorem roomFor_le {capacity : Option Nat} {bound : Nat} (limited : capacity = some bound)
    (count : Nat) : roomFor capacity count ≤ bound := by
  subst limited
  exact Nat.min_le_left _ _

/-- What was dropped before makes no difference to what a new event drops. -/
theorem roomFor_roomFor_add (capacity : Option Nat) (count more : Nat) :
    roomFor capacity (roomFor capacity count + more) = roomFor capacity (count + more) := by
  cases capacity with
  | none => rfl
  | some bound =>
      simp only [roomFor]
      omega

theorem limitOf_eq_capacity (limit : Number) : limitOf limit = capacity limit := by
  cases limit with
  | nan => rfl
  | infinite negative => rfl
  | finite negative magnitude =>
      rw [limitOf, capacity, Option.some.injEq, Int.fdiv_eq_ediv_of_nonneg _ (Int.natCast_nonneg _)]
      cases negative with
      | true =>
          have below : -(magnitude : Int) / Number.unit ≤ 0 :=
            Int.ediv_nonpos_of_nonpos_of_neg (by omega) (Int.natCast_pos.mpr Number.unit_pos)
          exact (Int.toNat_of_nonpos below).symm
      | false => exact congrArg Int.toNat (Int.natCast_ediv magnitude Number.unit)

theorem length_latest (limit : Number) (events : List Event) :
    (latest (limitOf limit) events).length = roomFor (capacity limit) events.length := by
  rw [limitOf_eq_capacity]
  cases capacity limit with
  | none => rfl
  | some bound =>
      simp only [latest, roomFor, List.length_drop]
      omega

section moves

theorem limit_run (moves : List Move) : (run moves).limit = limitOf (givenLimit moves) := by
  induction moves with
  | nil =>
      have thousand : (1000 : Number) = .natural 1000 := Number.ofNat_eq_natural (by decide)
      rw [givenLimit, thousand, Number.natural, limitOf, Nat.mul_div_cancel _ Number.unit_pos]
      rfl
  | cons move earlier inductionHypothesis =>
      cases move with
      | record event => exact (limit_record _ event).trans inductionHypothesis
      | configure limit enabled =>
          cases limit with
          | none => exact inductionHypothesis
          | some number => exact limit_trim _
      | clear => exact inductionHypothesis

theorem enabled_run (moves : List Move) : (run moves).enabled = switchedOn moves := by
  induction moves with
  | nil => rfl
  | cons move earlier inductionHypothesis =>
      cases move with
      | record event => exact (enabled_record _ event).trans inductionHypothesis
      | configure limit enabled =>
          cases enabled with
          | none =>
              cases limit with
              | none => exact inductionHypothesis
              | some number => exact (enabled_trim _).trans inductionHypothesis
          | some value => rfl
      | clear => exact inductionHypothesis

theorem events_run_record (event : Event) (earlier : List Move) :
    (run (.record event :: earlier)).events =
      if switchedOn earlier then
        latest (limitOf (givenLimit earlier)) ((run earlier).events ++ [event])
      else (run earlier).events := by
  rw [← enabled_run, ← limit_run]
  exact events_record_eq _ event

theorem events_run_configure (limit : Option Number) (enabled : Option Bool)
    (earlier : List Move) :
    (run (.configure limit enabled :: earlier)).events =
      match limit with
      | none => (run earlier).events
      | some number => latest (limitOf number) (run earlier).events :=
  events_configure _ limit enabled

/-- Only a cleared ledger forgets what it recorded. Every other move adds to its log or drops the
oldest events. -/
theorem events_run_cons {move : Move} (kept : move ≠ .clear) (earlier : List Move) :
    ∃ added, recorded (move :: earlier) = recorded earlier ++ added ∧
      (run (move :: earlier)).events <:+ (run earlier).events ++ added := by
  cases move with
  | record event =>
      rw [events_run_record, recorded]
      cases switchedOn earlier with
      | true => exact ⟨[event], rfl, latest_suffix _ _⟩
      | false => exact ⟨[], (List.append_nil _).symm, by simp⟩
  | configure limit enabled =>
      refine ⟨[], (List.append_nil _).symm, ?_⟩
      rw [events_run_configure, List.append_nil]
      cases limit with
      | none => exact List.suffix_rfl
      | some number => exact latest_suffix _ _
  | clear => exact absurd rfl kept

theorem suffix_append {first second : List Event} (suffix : first <:+ second)
    (added : List Event) : first ++ added <:+ second ++ added := by
  obtain ⟨before, split⟩ := suffix
  exact ⟨before, by rw [← List.append_assoc, split]⟩

theorem events_suffix_recorded (moves : List Move) : (run moves).events <:+ recorded moves := by
  induction moves with
  | nil => exact List.suffix_rfl
  | cons move earlier inductionHypothesis =>
      by_cases cleared : move = .clear
      · subst cleared
        exact List.suffix_rfl
      · obtain ⟨added, grown, left⟩ := events_run_cons cleared earlier
        rw [grown]
        exact left.trans (suffix_append inductionHypothesis added)

theorem events_run_append {later : List Move} (kept : Move.clear ∉ later) (past : List Move) :
    ∃ added, recorded (later ++ past) = recorded past ++ added ∧
      (run (later ++ past)).events <:+ (run past).events ++ added := by
  induction later with
  | nil => exact ⟨[], (List.append_nil _).symm, by simp⟩
  | cons move between inductionHypothesis =>
      obtain ⟨before, recordedBefore, leftBefore⟩ := inductionHypothesis fun member =>
        kept (List.mem_cons_of_mem move member)
      have move_kept : move ≠ .clear := by
        rintro rfl
        exact kept List.mem_cons_self
      obtain ⟨added, grown, left⟩ := events_run_cons move_kept (between ++ past)
      refine ⟨before ++ added, ?_, ?_⟩
      · rw [List.cons_append, grown, recordedBefore, List.append_assoc]
      · rw [← List.append_assoc]
        exact left.trans (suffix_append leftBefore added)

theorem length_events_run_le (moves : List Move) {bound : Nat}
    (limited : capacity (givenLimit moves) = some bound) : (run moves).events.length ≤ bound := by
  induction moves with
  | nil => exact Nat.zero_le _
  | cons move earlier inductionHypothesis =>
      cases move with
      | record event =>
          rw [events_run_record]
          split
          next =>
            rw [length_latest]
            exact roomFor_le limited _
          next => exact inductionHypothesis limited
      | configure limit enabled =>
          rw [events_run_configure]
          cases limit with
          | none => exact inductionHypothesis limited
          | some number =>
              rw [length_latest]
              exact roomFor_le limited _
      | clear => exact Nat.zero_le _

/-- While the capacity stays the same, it alone decides how many events are left. -/
theorem length_events_run_eq {room : Option Nat} {later since : List Move}
    (cleared : since = [] ∨ since.head? = some .clear)
    (constant : ∀ part, part <:+ later → capacity (givenLimit (part ++ since)) = room) :
    (run (later ++ since)).events.length = roomFor room (recorded (later ++ since)).length := by
  have nothing (room : Option Nat) : 0 = roomFor room 0 := by cases room <;> simp [roomFor]
  induction later with
  | nil =>
      rcases cleared with rfl | cleared
      · exact nothing room
      · obtain ⟨earlier, rfl⟩ := List.head?_eq_some_iff.mp cleared
        exact nothing room
  | cons move between inductionHypothesis =>
      have before := inductionHypothesis fun part inside =>
        constant part (inside.trans (List.suffix_cons move between))
      have here := constant between (List.suffix_cons move between)
      have after := constant (move :: between) List.suffix_rfl
      rw [List.cons_append] at after ⊢
      cases move with
      | record event =>
          rw [events_run_record, recorded]
          split
          next =>
            rw [length_latest, here, List.length_append, List.length_append, before,
              roomFor_roomFor_add]
          next => exact before
      | configure limit enabled =>
          rw [events_run_configure, recorded]
          cases limit with
          | none => exact before
          | some number =>
              have given : capacity number = room := after
              have again := roomFor_roomFor_add room (recorded (between ++ since)).length 0
              rw [length_latest, given, before]
              exact again
      | clear => exact nothing room

end moves

section counts

theorem recent_natural {count : Nat} (positive : 0 < count) (ledger : Ledger) :
    ledger.recent (.natural count) = ledger.events.drop (ledger.events.length - count) := by
  rw [recent, Number.atMost_zero_natural positive, Number.position_negate_natural positive]
  exact if_neg Bool.false_ne_true

/-- Every event has one of the three kinds. -/
theorem count_kinds (ledger : Ledger) :
    ledger.count .hit + ledger.count .scan + ledger.count .fail = ledger.events.length := by
  unfold count
  induction ledger.events with
  | nil => rfl
  | cons event rest inductionHypothesis =>
      cases kind : event.kind <;> simp [kind] at inductionHypothesis ⊢ <;> omega

theorem count_le_of_suffix {first second : List Event} (suffix : first <:+ second)
    (kind : Event.Kind) :
    (first.filter fun event => event.kind = kind).length ≤
      (second.filter fun event => event.kind = kind).length :=
  (suffix.sublist.filter _).length_le

theorem ofKind_count (counters : Counters) (event : Event) (kind : Event.Kind) :
    (counters.count event).ofKind kind =
      counters.ofKind kind + if event.kind = kind then 1 else 0 := by
  cases event <;> cases kind <;> rfl

/-- What is logged was counted, but not everything that was counted is still logged. -/
theorem count_run_le (moves : List Move) (kind : Event.Kind) :
    (run moves).count kind ≤ (run moves).counters.ofKind kind := by
  induction moves with
  | nil => exact Nat.zero_le _
  | cons move earlier inductionHypothesis =>
      cases move with
      | record event =>
          have counted : (run (.record event :: earlier)).counters =
            (run earlier).counters.count event := counters_record _ event
          rw [counted, ofKind_count, count, events_run_record]
          split
          next =>
            have left := count_le_of_suffix
              (latest_suffix (limitOf (givenLimit earlier)) ((run earlier).events ++ [event])) kind
            rw [List.filter_append, List.length_append] at left
            refine Nat.le_trans left (Nat.add_le_add inductionHypothesis ?_)
            simp only [List.filter_cons, List.filter_nil, decide_eq_true_eq]
            split <;> exact Nat.le_refl _
          next => exact Nat.le_add_right_of_le inductionHypothesis
      | configure limit enabled =>
          have counters : (run (.configure limit enabled :: earlier)).counters =
            (run earlier).counters := counters_configure _ limit enabled
          rw [counters, count, events_run_configure]
          cases limit with
          | none => exact inductionHypothesis
          | some number =>
              exact Nat.le_trans (count_le_of_suffix (latest_suffix _ _) kind) inductionHypothesis
      | clear => exact Nat.zero_le _

end counts

/-- However a ledger is used, it logs the latest events that were recorded, as many as there is
room for. -/
theorem logsLatest_run (moves : List Move) : (run moves).LogsLatest moves where
  bounded _ limited := length_events_run_le moves limited
  latest := events_suffix_recorded moves
  dropped := by
    rintro later past rfl kept
    exact events_run_append kept past
  full := by
    rintro later since rfl cleared constant
    exact length_events_run_eq cleared constant
  recent count positive := by
    rw [recent_natural positive]
    refine ⟨List.drop_suffix _ _, ?_⟩
    rw [List.length_drop]
    omega
  kinds := count_kinds _
  counted := count_run_le moves

end CommandWords.Ledger
