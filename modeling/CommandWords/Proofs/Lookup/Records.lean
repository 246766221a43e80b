/-
This file shows that a table of records answers as the flat table of its keywords. Neither the
slots between the keywords nor what lies behind the sentinel has a part in an answer.
-/

import CommandWords.Proofs.Lookup.Reference

namespace CommandWords

namespace Table

/-- A row of keywords without a sentinel is read in whole. -/
theorem keywords_ofKeywords {keywords : List String} (small : keywords.length < bound) :
    (ofKeywords keywords).keywords flatStride = .done keywords .unknown := by
  have fits : (keywords.map Slot.keyword).length < bound := by rwa [List.length_map]
  have length : (ofKeywords keywords).length = keywords.length := by
    rw [ofKeywords, length_ofSlots fits, List.length_map]
  have named : distance? flatStride = some 1 := by decide +kernel
  obtain ⟨equal, positive⟩ := distance?_eq_some.mp named
  refine keywords_eq_done_iff.mpr ⟨rfl, 1, equal, positive, ?_, .inl ?_⟩
  · intro position inside
    rw [entry, ofKeywords, slot_ofSlots fits, Nat.zero_add, Nat.mul_one, List.getElem?_map,
      List.getElem?_eq_getElem inside, Option.map_some, Option.getD_some]
  · rw [recordCount, Nat.div_one, Nat.add_sub_cancel, length]

/-- The tables have the same keywords in their records up to the first sentinel, whatever else they
hold. -/
def SameRecords (first second : Table) (distance : Nat) : Prop :=
  ∀ ordinal, (∀ earlier, earlier < ordinal → first.entry distance earlier ≠ .sentinel) →
    (ordinal < first.recordCount distance ↔ ordinal < second.recordCount distance) ∧
      first.entry distance ordinal = second.entry distance ordinal

theorem SameRecords.trans {first second third : Table} {distance : Nat}
    (before : first.SameRecords second distance) (after : second.SameRecords third distance) :
    first.SameRecords third distance := by
  intro ordinal unended
  have still : ∀ earlier, earlier < ordinal → second.entry distance earlier ≠ .sentinel := by
    intro earlier below
    rw [← (before earlier fun one lower => unended one (Nat.lt_trans lower below)).2]
    exact unended earlier below
  obtain ⟨counted, here⟩ := before ordinal unended
  obtain ⟨also, there⟩ := after ordinal still
  exact ⟨counted.trans also, here.trans there⟩

/-- No sentinel stands before the end of the keywords. -/
theorem Fills.unended {table : Table} {distance records ordinal : Nat} {keywords : List String}
    (fills : table.Fills distance 0 records keywords) (within : ordinal ≤ keywords.length) :
    ∀ earlier, earlier < ordinal → table.entry distance earlier ≠ .sentinel := by
  intro earlier before sentinel
  have written := fills.entries earlier (Nat.lt_of_lt_of_le before within)
  rw [Nat.zero_add, sentinel] at written
  cases written

/-- The keywords stand in the records up to the first sentinel. -/
theorem SameRecords.fills {first second : Table} {distance : Nat} {keywords : List String}
    (same : first.SameRecords second distance)
    (fills : first.Fills distance 0 (first.recordCount distance) keywords) :
    second.Fills distance 0 (second.recordCount distance) keywords := by
  constructor
  · intro position inside
    rw [Nat.zero_add, ← (same position (fills.unended (Nat.le_of_lt inside))).2]
    have written := fills.entries position inside
    rwa [Nat.zero_add] at written
  · obtain ⟨counted, here⟩ := same keywords.length (fills.unended (Nat.le_refl _))
    rw [Nat.zero_add, ← here]
    rcases fills.ended with whole | ⟨within, sentinel⟩
    · have last : keywords.length - 1 < keywords.length →
          keywords.length - 1 < second.recordCount distance := by
        intro inside
        exact (same _ (fills.unended (Nat.le_of_lt inside))).1.mp (by omega)
      exact .inl (by omega)
    · rw [Nat.zero_add] at sentinel
      exact .inr ⟨counted.mp within, sentinel⟩

theorem SameRecords.keywords {first second : Table} {stride : Number} {distance : Nat}
    {keywords : List String} {effort : Effort} (same : first.SameRecords second distance)
    (named : distance? stride = some distance)
    (formed : first.keywords stride = .done keywords effort) :
    second.keywords stride = .done keywords effort := by
  obtain ⟨known, found, equal, positive, fills⟩ := keywords_eq_done_iff.mp formed
  obtain rfl : found = distance :=
    Option.some.inj ((distance?_eq_some.mpr ⟨equal, positive⟩).symm.trans named)
  exact keywords_eq_done_iff.mpr ⟨known, found, equal, positive, same.fills fills⟩

/-- The caller may use the slots between the keywords and all slots behind a sentinel. -/
def Idle (table : Table) (distance position : Nat) : Prop :=
  position < table.length ∧ ¬ distance ∣ position ∨
    ∃ ended, table.entry distance ended = .sentinel ∧ ended * distance < position

/-- A caller who writes idle slots only keeps the records. -/
theorem sameRecords_write {table : Table} {distance : Nat} (positive : 0 < distance)
    {place : Number} (slot : Slot)
    (idle : ∀ position, position? place = some position → table.Idle distance position) :
    table.SameRecords (table.write place slot) distance := by
  intro ordinal unended
  rw [lt_recordCount table positive, lt_recordCount _ positive, write]
  split
  next => exact ⟨Iff.rfl, rfl⟩
  next position named =>
    have apart : ordinal * distance ≠ position ∧
        (ordinal * distance < table.length ↔
          ordinal * distance < max table.length (position + 1)) := by
      rcases idle position named with ⟨inside, between⟩ | ⟨ended, sentinel, behind⟩
      · refine ⟨fun same => between ⟨ordinal, ?_⟩, by omega⟩
        rw [← same, Nat.mul_comm]
      · have within : ordinal ≤ ended := by
          apply Nat.le_of_not_lt
          exact fun later => unended ended later sentinel
        have before : ordinal * distance ≤ ended * distance := Nat.mul_le_mul_right distance within
        have stored := lt_length_of_slot sentinel (by simp)
        omega
    exact ⟨apart.2, (if_neg apart.1).symm⟩

end Table

variable {Data : Type} {catalogue : Catalogue Data}

namespace Question

/-- The question to a table that holds nothing but keywords. -/
def flat (question : Question Data) (table : Ref Table) : Question Data :=
  { question with table, stride := Table.flatStride }

theorem ask_flat (question : Question Data) (table : Ref Table) :
    (question.flat table).ask catalogue =
      Action.lookupFlat catalogue question.cell table question.label question.exactOnly := rfl

variable (catalogue)

/-- The outcome for a new cell with a text, and the keyword that its answer stands for. -/
def Answers (question : Question Data) (state : State Data) (text : String)
    (outcome : Outcome Number) (keyword? : Option String) : Prop :=
  ∃ later, (question.askNew catalogue text).run state = (.ok outcome, later) ∧
    (later.resolution? catalogue state.cells.next).map (Resolution.expand · later.tables) =
      keyword?.map .ok

/-- The questions have one outcome, and where they are answered, one keyword. -/
def SameAnswers (first second : Question Data) (before after : State Data) (text : String) : Prop :=
  ∃ outcome keyword?, first.Answers catalogue before text outcome keyword? ∧
    second.Answers catalogue after text outcome keyword? ∧ keyword?.isSome = outcome.isDone

variable {catalogue} {question : Question Data} {state : State Data} {keywords : List String}
  {effort : Effort}

theorem expand_resolution
    (formed : (state.tables.get question.table).keywords question.stride = .done keywords effort)
    {position : Nat} (inside : position < keywords.length) :
    (question.resolution position).expand state.tables = .ok keywords[position] := by
  apply Resolution.expand_of_keywordAt
  simpa only [resolution] using Table.keywordAt_of_keywords formed inside

/-- A new cell has the outcome of a scan for its text. -/
theorem answers_scanned
    (formed : (state.tables.get question.table).keywords question.stride = .done keywords effort)
    (text : String) :
    question.Answers catalogue state text (question.scanned text keywords)
      (((Scan.run text keywords).resolved? question.exactOnly).bind (keywords[·]?)) := by
  let fresh := state.addCell ⟨some text, none⟩
  let copy : Question Data := { question with cell := state.cells.next }
  obtain ⟨bare, read, unkept⟩ := state.new_text catalogue text
  obtain ⟨later, ended, tables, kept⟩ := copy.run_ask_of_unkept unkept formed read (by
    intro representation held
    rw [bare] at held
    cases held)
  refine ⟨later, ended, ?_⟩
  have installed : later.resolution? catalogue state.cells.next =
      ((Scan.run text keywords).resolved? question.exactOnly).map question.resolution :=
    kept.trans (copy.keptAfter?_scanned text keywords)
  rw [installed, tables]
  cases resolved : (Scan.run text keywords).resolved? question.exactOnly with
  | none => rfl
  | some position =>
      have inside := Scan.lt_of_resolved resolved
      have expanded := expand_resolution formed inside
      rw [Option.map_some, Option.map_some, Option.bind_some, List.getElem?_eq_getElem inside,
        Option.map_some, ← expanded]
      rfl

/-- Tables that give the same keywords give the same answers. -/
theorem sameAnswers_of_keywords {other : Question Data} {after : State Data} {cost : Effort}
    (formed : (state.tables.get question.table).keywords question.stride = .done keywords effort)
    (also : (after.tables.get other.table).keywords other.stride = .done keywords cost)
    (label : other.label = question.label) (exactOnly : other.exactOnly = question.exactOnly)
    (text : String) : SameAnswers catalogue question other state after text := by
  have first : question.Answers catalogue state text _ _ := answers_scanned formed text
  have second : other.Answers catalogue after text _ _ := answers_scanned also text
  have outcome : other.scanned text keywords = question.scanned text keywords := by
    rw [scanned, scanned, label, exactOnly]
  rw [outcome, exactOnly] at second
  refine ⟨_, _, first, second, ?_⟩
  cases resolved : (Scan.run text keywords).resolved? question.exactOnly with
  | none =>
      obtain ⟨_, failure, failed, _⟩ := scanned_of_unresolved resolved
      rw [failed]
      rfl
  | some position =>
      have inside := Scan.lt_of_resolved resolved
      rw [scanned_of_resolved resolved, Option.bind_some, List.getElem?_eq_getElem inside]
      rfl

variable (catalogue) in
/-- A table of records and the flat table of its keywords answer every text alike. So does a table
with the same records, in which the positions of keywords stand for the same keywords. -/
theorem records_answer_as_flat
    (formed : (state.tables.get question.table).keywords question.stride = .done keywords effort)
    (text : String) :
    (∀ (other : State Data) (flat : Ref Table), other.tables.get flat = .ofKeywords keywords →
      SameAnswers catalogue question (question.flat flat) state other text) ∧
    ∀ (other : State Data) (distance : Nat), Table.distance? question.stride = some distance →
      (state.tables.get question.table).SameRecords (other.tables.get question.table) distance →
        SameAnswers catalogue question question state other text ∧
          ∀ position, position < keywords.length →
            (question.resolution position).expand other.tables =
              (question.resolution position).expand state.tables := by
  refine ⟨?_, ?_⟩
  · intro other flat given
    have also : (other.tables.get (question.flat flat).table).keywords Table.flatStride =
        .done keywords .unknown := by
      rw [Question.flat, given]
      exact Table.keywords_ofKeywords (Table.length_lt_bound formed)
    exact sameAnswers_of_keywords formed also rfl rfl text
  · intro other distance named same
    have also := same.keywords named formed
    refine ⟨sameAnswers_of_keywords formed also rfl rfl text, ?_⟩
    intro position inside
    rw [expand_resolution also inside, expand_resolution formed inside]

/-- A keyword behind the sentinel does not make a text ambiguous. The caller writes between the
keywords and behind the sentinel. -/
theorem records_answer_as_flat_sentinel :
    let records : Table := .ofSlots
      [.keyword "start", .other, .keyword "stop", .keyword "x", .sentinel, .other, .keyword "stay"]
    let changed := (records.write 1 (.keyword "sta")).write 8 .other
    let state := session .inert [.addTable (.ofKeywords ["start", "stop"]), .addTable records]
    let other := session .inert [.addTable changed]
    let question : Question Unit := ⟨⟨0⟩, ⟨0⟩, 2, "option", false⟩
    (state.tables.get question.table).keywords question.stride =
        .done ["start", "stop"] .unknown ∧
      state.tables.get ⟨1⟩ = .ofKeywords ["start", "stop"] ∧
      Table.distance? question.stride = some 2 ∧
      (state.tables.get question.table).SameRecords (other.tables.get question.table) 2 ∧
      SameAnswers .inert question (question.flat ⟨1⟩) state state "sta" ∧
      SameAnswers .inert question question state other "sta" ∧
      (question.resolution 0).expand other.tables = .ok "start" := by
  intro records changed state other question
  have formed : (state.tables.get question.table).keywords question.stride =
      .done ["start", "stop"] .unknown := Table.keywords_of_result (by decide +kernel)
  have given : state.tables.get ⟨1⟩ = .ofKeywords ["start", "stop"] := rfl
  have named : Table.distance? question.stride = some 2 := by decide +kernel
  have between : records.SameRecords (records.write 1 (.keyword "sta")) 2 := by
    apply Table.sameRecords_write (by decide)
    have placed : Table.position? 1 = some 1 := by decide +kernel
    intro position found
    obtain rfl : 1 = position := Option.some.inj (placed.symm.trans found)
    exact .inl ⟨by decide +kernel, by decide⟩
  have behind : (records.write 1 (.keyword "sta")).SameRecords changed 2 := by
    apply Table.sameRecords_write (by decide)
    have placed : Table.position? 8 = some 8 := by decide +kernel
    intro position found
    obtain rfl : 8 = position := Option.some.inj (placed.symm.trans found)
    exact .inr ⟨2, by decide +kernel, by decide⟩
  have stored : ∀ table, (session .inert [.addTable table]).tables.get ⟨0⟩ = table := fun _ => rfl
  have same : (state.tables.get question.table).SameRecords
      (other.tables.get question.table) 2 := by
    rw [stored changed]
    exact between.trans behind
  obtain ⟨flat, altered⟩ := records_answer_as_flat .inert formed "sta"
  obtain ⟨again, expanded⟩ := altered other 2 named same
  refine ⟨formed, given, named, same, flat state ⟨1⟩ given, again, ?_⟩
  rw [expanded 0 (by decide)]
  exact expand_resolution formed (by decide)

end Question

end CommandWords
