/-
This file merges settings in a memory of objects. The merge makes new objects only: everything that
was there before stays as it was, and the new object reads as the merged configuration.
-/

import CommandWords.Configuration.Object
import CommandWords.Store
import Mathlib.Logic.Function.Basic

namespace CommandWords

namespace Store

variable {Entry : Type}

/-- Everything that was given out is still there and as it was. -/
structure Keeps (before after : Store Entry) : Prop where
  has : ∀ {reference : Ref Entry}, before.has reference = true → after.has reference = true
  get : ∀ {reference : Ref Entry}, before.has reference = true →
    after.get reference = before.get reference

theorem Keeps.refl (store : Store Entry) : store.Keeps store := ⟨id, fun _ => rfl⟩

theorem Keeps.trans {first second third : Store Entry} (before : first.Keeps second)
    (after : second.Keeps third) : first.Keeps third where
  has given := after.has (before.has given)
  get given := (after.get (before.has given)).trans (before.get given)

theorem keeps_add (store : Store Entry) (entry : Entry) : store.Keeps (store.add entry) where
  has given := has_add given entry
  get given := get_add_of_has given entry

end Store

namespace Configuration

/-- The settings of a configuration stand in two groups. -/
inductive SettingGroup where
  | lookup
  | usage
deriving DecidableEq

namespace SettingGroup

/-- What an object with the settings of a group holds. -/
def Fields : SettingGroup → Type
  | lookup => LookupChanges
  | usage => UsageChanges

def noFields : (group : SettingGroup) → group.Fields
  | lookup => Changes.empty.lookup
  | usage => Changes.empty.usage

/-- The fields of two objects of a group. A field of the second object wins. -/
def spread : (group : SettingGroup) → group.Fields → group.Fields → group.Fields
  | lookup => fun first second =>
      { exactByDefault := second.exactByDefault.or first.exactByDefault
        logLimit := second.logLimit.or first.logLimit
        logEnabled := second.logEnabled.or first.logEnabled }
  | usage => fun first second =>
      { literalFirstWord := second.literalFirstWord.or first.literalFirstWord }

theorem spread_noFields (group : SettingGroup) (fields : group.Fields) :
    group.spread fields group.noFields = fields := by
  cases group <;> rfl

end SettingGroup

/-- The second changes on top of the first. -/
def Changes.spread (first second : Changes) : Changes where
  lookup := SettingGroup.lookup.spread first.lookup second.lookup
  usage := SettingGroup.usage.spread first.usage second.usage

theorem toChanges_apply (configuration : Configuration) (changes : Changes) :
    (configuration.apply changes).toChanges = configuration.toChanges.spread changes := by
  simp only [toChanges, apply, Changes.spread, SettingGroup.spread, Option.or_some]

/-- Merging on top of a configuration is merging its changes. -/
theorem toChanges_merge (configuration : Configuration) (changes : List Changes) :
    (configuration.merge changes).toChanges =
      changes.foldl Changes.spread configuration.toChanges := by
  induction changes generalizing configuration with
  | nil => rfl
  | cons first rest inductionHypothesis =>
      have step := inductionHypothesis (configuration.apply first)
      rwa [toChanges_apply] at step

/-- The objects with the settings of a group, for every group. -/
abbrev Groups := (group : SettingGroup) → Store group.Fields

namespace Groups

variable (groups : Groups) (group : SettingGroup) (fields : group.Fields)

/-- A new object with the settings of a group. -/
def add : Groups := Function.update groups group ((groups group).add fields)

theorem add_self : groups.add group fields group = (groups group).add fields :=
  Function.update_self _ _ _

theorem add_other {other : SettingGroup} (different : other ≠ group) :
    groups.add group fields other = groups other :=
  Function.update_of_ne different _ _

theorem keeps_add (other : SettingGroup) :
    (groups other).Keeps (groups.add group fields other) := by
  by_cases same : other = group
  · subst same
    rw [add_self]
    exact Store.keeps_add _ fields
  · rw [groups.add_other group fields same]
    exact Store.Keeps.refl _

theorem get_add_next : (groups.add group fields group).get (groups group).next = fields := by
  rw [add_self, Store.get_add_next]

end Groups

/-- The groups that an object names. -/
abbrev Members := (group : SettingGroup) → Option (Ref group.Fields)

/-- The named groups are there. -/
def Members.Known (members : Members) (groups : Groups) : Prop :=
  ∀ group reference, members group = some reference → (groups group).has reference = true

namespace Members

variable {members : Members} {groups : Groups}

theorem Known.add (known : members.Known groups) (group : SettingGroup) (fields : group.Fields) :
    members.Known (groups.add group fields) := by
  intro other reference named
  exact (groups.keeps_add group fields other).has (known other reference named)

/-- The fields of a group. A missing group has none. -/
def fields (members : Members) (groups : Groups) (group : SettingGroup) : group.Fields :=
  match members group with
  | some reference => (groups group).get reference
  | none => group.noFields

theorem Known.fields_of_keeps (known : members.Known groups) {others : Groups}
    (kept : ∀ group, (groups group).Keeps (others group)) :
    members.fields others = members.fields groups := by
  funext group
  unfold fields
  cases named : members group with
  | none => rfl
  | some reference => exact (kept group).get (known group reference named)

/-- The members with a new group in the place of an old one. -/
def replace (members : Members) (groups : Groups) (group : SettingGroup) : Members :=
  Function.update members group (some (groups group).next)

theorem replace_self (members : Members) (groups : Groups) (group : SettingGroup) :
    members.replace groups group group = some (groups group).next :=
  Function.update_self _ _ _

theorem replace_other (members : Members) (groups : Groups) {group other : SettingGroup}
    (different : other ≠ group) : members.replace groups group other = members other :=
  Function.update_of_ne different _ _

theorem Known.replace (known : members.Known groups) (group : SettingGroup)
    (fields : group.Fields) : (members.replace groups group).Known (groups.add group fields) := by
  intro other reference named
  by_cases same : other = group
  · subst same
    rw [replace_self, Option.some.injEq] at named
    rw [← named, Groups.add_self]
    exact Store.has_add_next _ fields
  · rw [replace_other members groups same] at named
    exact known.add group fields other reference named

theorem Known.fields_replace (known : members.Known groups) (group : SettingGroup)
    (fields : group.Fields) :
    (members.replace groups group).fields (groups.add group fields) =
      Function.update (members.fields groups) group fields := by
  funext other
  by_cases same : other = group
  · subst same
    rw [Function.update_self, Members.fields, replace_self]
    exact groups.get_add_next other fields
  · rw [Function.update_of_ne same, ← known.fields_of_keeps (groups.keeps_add group fields)]
    unfold Members.fields
    rw [replace_other members groups same]

end Members

/-- Objects with settings name their groups, which are objects themselves. Several objects may name
the same group. -/
structure Objects where
  groups : Groups
  objects : Store Members
  /-- An object names nothing that is not there. -/
  known : ∀ object, (objects.get object).Known groups

namespace Objects

def empty : Objects where
  groups group := Store.empty group.noFields
  objects := Store.empty fun _ => none
  known := by
    intro object group reference named
    cases named

/-- The fields of the groups of an object. -/
def fields (memory : Objects) (object : Ref Members) (group : SettingGroup) : group.Fields :=
  (memory.objects.get object).fields memory.groups group

/-- The changes that an object asks for. -/
def changes (memory : Objects) (object : Ref Members) : Changes where
  lookup := memory.fields object .lookup
  usage := memory.fields object .usage

/-- Every object and every group that was there is still there and as it was. -/
structure Keeps (before after : Objects) : Prop where
  groups : ∀ group, (before.groups group).Keeps (after.groups group)
  objects : before.objects.Keeps after.objects

namespace Keeps

variable {first second third : Objects}

theorem refl (memory : Objects) : memory.Keeps memory :=
  ⟨fun _ => Store.Keeps.refl _, Store.Keeps.refl _⟩

theorem trans (before : first.Keeps second) (after : second.Keeps third) : first.Keeps third :=
  ⟨fun group => (before.groups group).trans (after.groups group),
    before.objects.trans after.objects⟩

theorem fields (kept : first.Keeps second) {object : Ref Members}
    (given : first.objects.has object = true) : second.fields object = first.fields object := by
  unfold Objects.fields
  rw [kept.objects.get given]
  exact (first.known object).fields_of_keeps kept.groups

theorem changes (kept : first.Keeps second) {object : Ref Members}
    (given : first.objects.has object = true) : second.changes object = first.changes object := by
  unfold Objects.changes
  rw [kept.fields given]

end Keeps

/-- A memory and the object that a merge has reached in it. -/
structure Merged where
  memory : Objects
  result : Ref Members

namespace Merged

def fields (merged : Merged) : (group : SettingGroup) → group.Fields :=
  merged.memory.fields merged.result

def changes (merged : Merged) : Changes := merged.memory.changes merged.result

end Merged

/-- A new object before it is added to the memory. Its new groups are there already. -/
structure Draft (memory : Objects) where
  groups : Groups
  members : Members
  known : members.Known groups
  kept : ∀ group, (memory.groups group).Keeps (groups group)

namespace Draft

variable {memory : Objects} (draft : Draft memory)

def fields : (group : SettingGroup) → group.Fields := draft.members.fields draft.groups

/-- A new group with these fields takes the place of a member. -/
def replace (group : SettingGroup) (fields : group.Fields) : Draft memory where
  groups := draft.groups.add group fields
  members := draft.members.replace draft.groups group
  known := draft.known.replace group fields
  kept other := (draft.kept other).trans (draft.groups.keeps_add group fields other)

theorem fields_replace (group : SettingGroup) (fields : group.Fields) :
    (draft.replace group fields).fields = Function.update draft.fields group fields :=
  draft.known.fields_replace group fields

def finish : Merged where
  memory :=
    { groups := draft.groups
      objects := memory.objects.add draft.members
      known := by
        intro object
        by_cases same : object = memory.objects.next
        · rw [same, Store.get_add_next]
          exact draft.known
        · rw [Store.get_add_other _ same]
          intro group reference named
          exact (draft.kept group).has (memory.known object group reference named) }
  result := memory.objects.next

theorem keeps_finish : memory.Keeps draft.finish.memory :=
  ⟨draft.kept, Store.keeps_add _ draft.members⟩

theorem fields_finish : draft.finish.fields = draft.fields := by
  unfold Merged.fields Objects.fields finish fields
  rw [Store.get_add_next]

end Draft

/-- A new object with the members of another one. -/
def draft (memory : Objects) (object : Ref Members) : Draft memory where
  groups := memory.groups
  members := memory.objects.get object
  known := memory.known object
  kept _ := Store.Keeps.refl _

/-- A copy of an object and of both its groups. -/
def copy (memory : Objects) (object : Ref Members) : Merged :=
  let fields := memory.fields object
  (((memory.draft object).replace .lookup (fields .lookup)).replace .usage (fields .usage)).finish

/-- Objects can hold any changes. -/
example (changes : Changes) :
    ((((empty.draft empty.objects.next).replace .lookup changes.lookup).replace .usage
      changes.usage).finish).changes = changes := rfl

/-- If the changes have the group, a new object has a new group with their fields as well. -/
def Merged.take (merged : Merged) (changes : Ref Members) (group : SettingGroup) : Merged :=
  match merged.memory.objects.get changes group with
  | none => merged
  | some given =>
      ((merged.memory.draft merged.result).replace group
        (group.spread (merged.fields group) ((merged.memory.groups group).get given))).finish

def Merged.takeBoth (merged : Merged) (changes : Ref Members) : Merged :=
  (merged.take changes .lookup).take changes .usage

/-- The objects are merged from left to right into a copy of the base. -/
def merge (memory : Objects) (base : Ref Members) (objects : List (Ref Members)) : Merged :=
  objects.foldl Merged.takeBoth (memory.copy base)

theorem keeps_copy (memory : Objects) (object : Ref Members) :
    memory.Keeps (memory.copy object).memory :=
  Draft.keeps_finish _

theorem fields_copy (memory : Objects) (object : Ref Members) :
    (memory.copy object).fields = memory.fields object := by
  have start : (memory.draft object).fields = memory.fields object := rfl
  rw [copy, Draft.fields_finish, Draft.fields_replace, Draft.fields_replace, start,
    Function.update_eq_self, Function.update_eq_self]

theorem changes_copy (memory : Objects) (object : Ref Members) :
    (memory.copy object).changes = memory.changes object := by
  have fields := congrFun (memory.fields_copy object)
  exact congrArg₂ Changes.mk (fields .lookup) (fields .usage)

namespace Merged

variable (merged : Merged) (changes : Ref Members)

theorem keeps_take (group : SettingGroup) :
    merged.memory.Keeps (merged.take changes group).memory := by
  unfold take
  cases merged.memory.objects.get changes group with
  | none => exact Keeps.refl _
  | some given => exact Draft.keeps_finish _

/-- Only the fields of the one group change. -/
theorem fields_take (group : SettingGroup) :
    (merged.take changes group).fields =
      Function.update merged.fields group
        (group.spread (merged.fields group) (merged.memory.fields changes group)) := by
  unfold take Objects.fields Members.fields
  cases merged.memory.objects.get changes group with
  | none => rw [group.spread_noFields, Function.update_eq_self]
  | some given =>
      rw [Draft.fields_finish, Draft.fields_replace]
      rfl

theorem keeps_takeBoth : merged.memory.Keeps (merged.takeBoth changes).memory :=
  (merged.keeps_take changes .lookup).trans (keeps_take _ changes .usage)

/-- The fields of both groups are those from before and the given ones on top. -/
theorem fields_takeBoth (given : merged.memory.objects.has changes = true)
    (group : SettingGroup) :
    (merged.takeBoth changes).fields group =
      group.spread (merged.fields group) (merged.memory.fields changes group) := by
  rw [takeBoth, fields_take, (merged.keeps_take changes .lookup).fields given, fields_take]
  cases group with
  | lookup => rw [Function.update_of_ne (by decide), Function.update_self]
  | usage => rw [Function.update_self, Function.update_of_ne (by decide)]

theorem changes_takeBoth (given : merged.memory.objects.has changes = true) :
    (merged.takeBoth changes).changes =
      merged.changes.spread (merged.memory.changes changes) := by
  have fields := merged.fields_takeBoth changes given
  exact congrArg₂ Changes.mk (fields .lookup) (fields .usage)

/-- Every step keeps the objects that are still to come, so they read as they did at the start. -/
theorem foldl_takeBoth (merged : Merged) (objects : List (Ref Members))
    (given : ∀ object ∈ objects, merged.memory.objects.has object = true) :
    merged.memory.Keeps (objects.foldl takeBoth merged).memory ∧
      (objects.foldl takeBoth merged).changes =
        (objects.map merged.memory.changes).foldl Changes.spread merged.changes := by
  induction objects generalizing merged with
  | nil => exact ⟨Keeps.refl _, rfl⟩
  | cons first rest inductionHypothesis =>
      obtain ⟨there, others⟩ := List.forall_mem_cons.mp given
      have step := merged.keeps_takeBoth first
      obtain ⟨kept, reads⟩ := inductionHypothesis (merged.takeBoth first)
        fun object member => step.objects.has (others object member)
      have same : rest.map (merged.takeBoth first).memory.changes =
          rest.map merged.memory.changes :=
        List.map_congr_left fun object member => step.changes (others object member)
      refine ⟨step.trans kept, ?_⟩
      rw [List.foldl_cons, reads, same, merged.changes_takeBoth first there, List.map_cons,
        List.foldl_cons]

end Merged

/-- Everything that was there stays, and the new object reads as the objects on top of the base. -/
theorem merge_reads (memory : Objects) (base : Ref Members) (objects : List (Ref Members))
    (given : ∀ object ∈ objects, memory.objects.has object = true) :
    memory.Keeps (memory.merge base objects).memory ∧
      (memory.merge base objects).changes =
        (objects.map memory.changes).foldl Changes.spread (memory.changes base) := by
  have start := memory.keeps_copy base
  have same : objects.map (memory.copy base).memory.changes = objects.map memory.changes :=
    List.map_congr_left fun object member => start.changes (given object member)
  obtain ⟨kept, reads⟩ := (memory.copy base).foldl_takeBoth objects
    fun object member => start.objects.has (given object member)
  rw [same, changes_copy] at reads
  exact ⟨start.trans kept, reads⟩

end Objects

end Configuration

end CommandWords
