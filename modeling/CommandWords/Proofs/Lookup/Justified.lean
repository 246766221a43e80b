/-
This file shows that the tables justify every kept answer: its keyword is the first of its kind and
the text of its cell resolves to it.
-/

import CommandWords.Proofs.Session.LastAnswer
import CommandWords.Proofs.Session.Provenance
import CommandWords.Proofs.Table.Positions
import CommandWords.Proofs.Table.Resolved

namespace CommandWords

variable {Data : Type} {catalogue : Catalogue Data}

namespace Resolution

/-- A resolution stands for the keyword at a position, which no earlier keyword equals. -/
structure Stands (resolution : Resolution) (tables : Store Table) (keywords : List String)
    (position : Nat) (keyword : String) : Prop where
  formed : ∃ effort,
    (tables.get resolution.table).keywords resolution.stride = .done keywords effort
  index : resolution.index = .ofNat position
  present : keywords[position]? = some keyword
  first : (Scan.run keyword keywords).resolved? true = some position

/-- The text, if there is one, resolves to the keyword that the resolution stands for. -/
def Justified (resolution : Resolution) (tables : Store Table) (text : Option String) : Prop :=
  ∃ keywords position keyword, resolution.Stands tables keywords position keyword ∧
    ∀ key, text = some key → (Scan.run key keywords).resolved? false = some position

variable {resolution : Resolution} {tables : Store Table}

theorem expand_of_keywordAt {keyword : String}
    (read : (tables.get resolution.table).keywordAt resolution.stride resolution.index =
      some keyword) : resolution.expand tables = .ok keyword := by
  rw [Resolution.expand, read]

theorem Stands.keywordAt {keywords : List String} {position : Nat} {keyword : String}
    (stands : resolution.Stands tables keywords position keyword) :
    (tables.get resolution.table).keywordAt resolution.stride resolution.index = some keyword := by
  obtain ⟨effort, formed⟩ := stands.formed
  obtain ⟨inside, same⟩ := List.getElem?_eq_some_iff.mp stands.present
  rw [stands.index, Table.keywordAt_of_keywords formed inside, same]

theorem Stands.expand {keywords : List String} {position : Nat} {keyword : String}
    (stands : resolution.Stands tables keywords position keyword) :
    resolution.expand tables = .ok keyword :=
  expand_of_keywordAt stands.keywordAt

theorem Justified.dropped {text : Option String} (justified : resolution.Justified tables text) :
    resolution.Justified tables none := by
  obtain ⟨keywords, position, keyword, stands, _⟩ := justified
  exact ⟨keywords, position, keyword, stands, fun key shown => by cases shown⟩

theorem Justified.regenerated {text : Option String} {regenerated : String}
    (justified : resolution.Justified tables text)
    (expanded : resolution.expand tables = .ok regenerated) :
    resolution.Justified tables (some regenerated) := by
  obtain ⟨keywords, position, keyword, stands, _⟩ := justified
  cases stands.expand.symm.trans expanded
  refine ⟨keywords, position, regenerated, stands, ?_⟩
  intro key shown
  cases shown
  exact Scan.resolved_inexact stands.first

/-- Only tables that were filled have keywords to stand for. -/
theorem Stands.of_tables {keywords : List String} {position : Nat} {keyword : String}
    {later : Store Table} (stands : resolution.Stands tables keywords position keyword)
    (kept : ∀ reference, tables.get reference ≠ default →
      later.get reference = tables.get reference) :
    resolution.Stands later keywords position keyword := by
  obtain ⟨effort, formed⟩ := stands.formed
  have filled : tables.get resolution.table ≠ default := by
    intro blank
    rw [blank] at formed
    have present := stands.present
    rw [Table.keywords_default formed] at present
    cases present
  exact
    { formed := ⟨effort, by rw [kept _ filled, formed]⟩
      index := stands.index
      present := stands.present
      first := stands.first }

theorem Justified.of_tables {text : Option String} {later : Store Table}
    (justified : resolution.Justified tables text)
    (kept : ∀ reference, tables.get reference ≠ default →
      later.get reference = tables.get reference) :
    resolution.Justified later text := by
  obtain ⟨keywords, position, keyword, stands, agrees⟩ := justified
  exact ⟨keywords, position, keyword, stands.of_tables kept, agrees⟩

/-- The keyword of a justified answer stays while filled tables stay. -/
theorem Justified.expand_of_tables {text : Option String} {later : Store Table}
    (justified : resolution.Justified tables text)
    (kept : ∀ reference, tables.get reference ≠ default →
      later.get reference = tables.get reference) :
    resolution.expand later = resolution.expand tables := by
  obtain ⟨keywords, position, keyword, stands, _⟩ := justified
  rw [stands.expand, (stands.of_tables kept).expand]

end Resolution

namespace State

variable {state : State Data} {cell : CellRef Data} {resolution : Resolution}

theorem Resolves.justified {exactOnly : Bool}
    (resolves : state.Resolves cell exactOnly resolution) :
    resolution.Justified state.tables (state.cells.get cell).text := by
  obtain ⟨key, keywords, effort, position, shown, formed, resolved, index⟩ := resolves
  have inside := Scan.lt_of_resolved resolved
  refine ⟨keywords, position, keywords[position], ?_, ?_⟩
  · exact
      { formed := ⟨effort, formed⟩
        index
        present := List.getElem?_eq_getElem inside
        first := Scan.resolved_keyword resolved inside true }
  · intro other same
    cases shown.symm.trans same
    exact Scan.resolved_inexact resolved

/-- No table stands behind the ones that were made, and all kept answers are justified. -/
structure Sound (catalogue : Catalogue Data) (state : State Data) : Prop where
  vacant : ∀ reference, state.tables.size ≤ reference.number →
    state.tables.get reference = default
  justified : ∀ {cell resolution}, state.resolution? catalogue cell = some resolution →
    resolution.Justified state.tables (state.cells.get cell).text

theorem Sound.of_prepared {before prepared : State Data} (sound : before.Sound catalogue)
    (owned : before.Owned) (prepares : before.Prepared catalogue prepared) :
    prepared.Sound catalogue := by
  have frame := Frame.of_prepared prepares
  constructor
  · rw [prepares.tables]
    exact sound.vacant
  · intro cell resolution kept
    rw [frame.resolution? owned (prepares.representation cell)] at kept
    rw [prepares.tables]
    have justified := sound.justified kept
    rcases prepares.text_of_kept owned kept with same | ⟨_, keyword, expanded, shown⟩
    · rwa [same]
    · rw [shown]
      exact justified.regenerated expanded

theorem Sound.of_same {first second : State Data} (sound : first.Sound catalogue)
    (same : first.SameMemory second) : second.Sound catalogue := by
  constructor
  · rw [same.tables]
    exact sound.vacant
  · intro cell resolution kept
    rw [same.resolution?] at kept
    rw [same.tables, same.cells]
    exact sound.justified kept

end State

/-- The caller leaves the tables as they are. -/
def Operation.KeepsTables : Operation Data → Prop
  | changeTable _ _ => False
  | _ => True

namespace State

variable {operation : Operation Data} {state committed : State Data} {mark : Mark Data}

/-- New tables stand behind the old ones, and filled tables stay. -/
theorem Commit.tables (keeps : operation.KeepsTables) (sound : state.Sound catalogue)
    (commit : Commit catalogue operation state mark committed) :
    (∀ reference, state.tables.get reference ≠ default →
      committed.tables.get reference = state.tables.get reference) ∧
    ∀ reference, committed.tables.size ≤ reference.number →
      committed.tables.get reference = default := by
  have unchanged : committed.tables = state.tables →
      (∀ reference, state.tables.get reference ≠ default →
        committed.tables.get reference = state.tables.get reference) ∧
      ∀ reference, committed.tables.size ≤ reference.number →
        committed.tables.get reference = default := by
    intro same
    rw [same]
    exact ⟨fun _ _ => rfl, sound.vacant⟩
  cases commit with
  | tableAdded table =>
      constructor
      · intro reference filled
        apply Store.get_add_other
        rintro rfl
        exact filled (sound.vacant _ (Nat.le_refl _))
      · intro reference behind
        simp only [Store.size_add] at behind
        have different : reference ≠ state.tables.next := by
          rintro rfl
          exact Nat.not_succ_le_self _ behind
        show (state.tables.add table).get reference = default
        rw [Store.get_add_other _ different]
        exact sound.vacant _ (Nat.le_of_succ_le behind)
  | tableChanged changes =>
      rw [changes] at keeps
      exact absurd keeps id
  | assigned installs able held content => exact unchanged (tables_setObject ..)
  | overwritten accepted resolves => exact unchanged (tables_setObject ..)
  | _ => exact unchanged rfl

theorem Commit.sound (keeps : operation.KeepsTables) (sound : state.Sound catalogue)
    (marked : Marked catalogue state mark committed)
    (commit : Commit catalogue operation state mark committed) : committed.Sound catalogue := by
  obtain ⟨filled, vacant⟩ := commit.tables keeps sound
  refine ⟨vacant, ?_⟩
  intro cell resolution kept
  have origin := commit.provenance marked kept
  apply Resolution.Justified.of_tables _ filled
  generalize (committed.cells.get cell).text = text at origin ⊢
  cases origin with
  | kept untouched answer shown =>
      rcases shown with rfl | ⟨rfl, _⟩
      · exact sound.justified answer
      · exact (sound.justified answer).dropped
  | answered resolves shown =>
      rw [shown]
      exact resolves.justified
  | copied answer shown =>
      rw [shown]
      exact sound.justified answer

end State

theorem Effect.sound {operation : Operation Data} {before after : State Data} {mark : Mark Data}
    (effect : Effect catalogue operation before mark after) (keeps : operation.KeepsTables)
    (owned : before.Owned) (safe : before.SafeWrites catalogue operation after)
    (sound : before.Sound catalogue) : after.Sound catalogue := by
  obtain ⟨prepared, committed, prepares, commit, same⟩ := effect.exists_commit
  have start := sound.of_prepared owned prepares
  have marked := commit.marked ((State.Frame.of_prepared prepares).owned owned)
    (safe prepares same)
  exact (commit.sound keeps start marked).of_same same

/-- An honest step that leaves the tables as they are. -/
structure Step.Stable (catalogue : Catalogue Data) (step : Step Data) : Prop extends
    Step.Honest catalogue step where
  keepsTables : step.operation.KeepsTables

/-- Runs without payloads of custom types are stable while the tables stay. -/
theorem Throughout.stable_of_plain {operations : List (Operation Data)}
    (plain : ∀ operation ∈ operations, operation.Plain)
    (keeps : ∀ operation ∈ operations, operation.KeepsTables) :
    Throughout catalogue (Step.Stable catalogue) operations := by
  have honest : Throughout catalogue (Step.Honest catalogue) operations :=
    Throughout.honest_of_plain plain
  clear plain
  induction operations with
  | nil => trivial
  | cons operation earlier inductionHypothesis =>
      obtain ⟨latest, before⟩ := honest
      have kept := keeps operation List.mem_cons_self
      have rest := inductionHypothesis (fun other member =>
        keeps other (List.mem_cons_of_mem _ member)) before
      exact ⟨⟨latest, kept⟩, rest⟩

/-- Whatever a stable run does, the tables justify every kept answer. -/
theorem Throughout.sound {operations : List (Operation Data)}
    (stable : Throughout catalogue (Step.Stable catalogue) operations) :
    Remembers catalogue operations ∧ (session catalogue operations).Sound catalogue := by
  have honest := stable.mono fun step holds => holds.toHonest
  refine ⟨honest.remembers, ?_⟩
  induction operations with
  | nil =>
      constructor
      · intro reference behind
        rfl
      · intro cell resolution kept
        cases kept
  | cons operation earlier inductionHypothesis =>
      obtain ⟨latest, before⟩ := stable
      have remembered := honest.2.remembers
      have effect := Step.effect catalogue ⟨session catalogue earlier, operation⟩ latest.custom
      exact effect.sound latest.keepsTables remembered.owned
        (latest.safeWrites remembered.owned) (inductionHypothesis before honest.2)

end CommandWords
