/-
This file says what a merge of settings comes to. The last changes that give a setting decide about
it, whatever they give besides, and the objects that are merged are not touched.
-/

import CommandWords.Proofs.Configuration.Layers
import CommandWords.Proofs.Configuration.Objects

namespace CommandWords.Configuration

namespace Setting

variable {Value : Type} (setting : Setting Value)

theorem lastGiven?_isSome {changes : Changes} {all : List Changes} (member : changes ∈ all)
    (given : (setting.given? changes).isSome) : (setting.lastGiven? all).isSome :=
  List.findSome?_isSome_iff.mpr ⟨changes, List.mem_reverse.mpr member, given⟩

end Setting

/-- Every setting that the changes give is given again by later ones. -/
def Changes.GivenAgain (changes : Changes) (later : List Changes) : Prop :=
  ∀ {Value : Type} (setting : Setting Value), (setting.given? changes).isSome →
    ∃ other ∈ later, (setting.given? other).isSome

theorem Changes.GivenAgain.lastGiven?_cons {changes : Changes} {later : List Changes}
    (again : changes.GivenAgain later) {Value : Type} (setting : Setting Value) :
    setting.lastGiven? (changes :: later) = setting.lastGiven? later := by
  rw [setting.lastGiven?_cons]
  cases given : setting.given? changes with
  | none => exact Option.or_none
  | some value =>
    obtain ⟨other, member, gives⟩ := again setting (by rw [given]; rfl)
    exact Option.or_of_isSome (setting.lastGiven?_isSome member gives)

/-- Changes that give nothing of their own have no part in a merge. -/
theorem merge_without (configuration : Configuration) (before : List Changes) {changes : Changes}
    {later : List Changes} (again : changes.GivenAgain later) :
    configuration.merge (before ++ changes :: later) = configuration.merge (before ++ later) := by
  apply Setting.eq_of_values
  intro Value setting
  rw [setting.of_merge, setting.of_merge, setting.lastGiven?_append,
    setting.lastGiven?_append, again.lastGiven?_cons]

/-- What a merge of changes into a configuration comes to. -/
structure MergesLast (base : Configuration) : Prop where
  /-- The last changes that give a setting decide about it, and else the base does. -/
  value : ∀ (changes : List Changes) {Value : Type} (setting : Setting Value),
    setting.of (base.merge changes) = (setting.lastGiven? changes).getD (setting.of base)
  /-- A merge may stop anywhere and go on with what it has reached. -/
  split : ∀ first second : List Changes,
    base.merge (first ++ second) = (base.merge first).merge second
  /-- Changes that are all given again later can be left out. -/
  overridden : ∀ (before : List Changes) (changes : Changes) (later : List Changes),
    changes.GivenAgain later →
      base.merge (before ++ changes :: later) = base.merge (before ++ later)
  repeated : ∀ (before : List Changes) (last : Changes),
    base.merge (before ++ [last, last]) = base.merge (before ++ [last])
  /-- In a memory the merge makes an object that reads as the merged configuration, and all objects
  that were there stay as they were. -/
  untouched : ∀ (memory : Objects) (object : Ref Members) (others : List (Ref Members)),
    memory.changes object = base.toChanges →
      (∀ other ∈ others, memory.objects.has other = true) →
        memory.Keeps (memory.merge object others).memory ∧
          (memory.merge object others).changes =
            (base.merge (others.map memory.changes)).toChanges

/-- A merge takes every setting from the last changes that give it and touches none of the objects
that it reads. -/
theorem merge_last (base : Configuration) : base.MergesLast where
  value changes _ setting := setting.of_merge base changes
  split first second := List.foldl_append
  overridden before _ _ again := base.merge_without before again
  repeated before last :=
    base.merge_without before fun _ given => ⟨last, List.mem_singleton_self last, given⟩
  untouched memory object others reads given := by
    rw [toChanges_merge, ← reads]
    exact memory.merge_reads object others given

/-- The second changes keep the limit of the first. -/
example :
    standard.merge [⟨⟨none, some 5, none⟩, ⟨none⟩⟩, ⟨⟨some true, none, none⟩, ⟨some true⟩⟩] =
      ⟨⟨true, 5, true⟩, ⟨true⟩⟩ := by
  decide +kernel

end CommandWords.Configuration
