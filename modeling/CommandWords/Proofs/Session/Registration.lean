/-
This file shows that a registry keeps the first type of each name. The types, the names and what is
found under a name all tell of the first attempts, and later attempts with their names are refused.
-/

import CommandWords.Proofs.Fields
import CommandWords.Proofs.Session.Registries
import CommandWords.Proofs.Text.UnitOrder

namespace CommandWords

section names

variable {Item : Type} (nameOf : Item → String)

/-- The first item of each name, in order. -/
def firstOfEach : List Item → List Item
  | [] => []
  | item :: rest => item :: (firstOfEach rest).filter fun other => nameOf other ≠ nameOf item

variable {nameOf} {items : List Item} {item : Item} {name : String}

theorem find?_firstOfEach (items : List Item) (name : String) :
    (firstOfEach nameOf items).find? (nameOf · = name) = items.find? (nameOf · = name) := by
  induction items with
  | nil => rfl
  | cons first rest inductionHypothesis =>
      rw [firstOfEach, List.find?_cons, List.find?_cons]
      by_cases same : nameOf first = name
      · rw [decide_eq_true same]
      · have kept : (fun other => decide (decide (nameOf other ≠ nameOf first) = true ∧
            decide (nameOf other = name) = true)) = fun other => decide (nameOf other = name) := by
          funext other
          rw [decide_eq_decide, decide_eq_true_iff, decide_eq_true_iff, and_iff_right_iff_imp]
          rintro rfl
          exact Ne.symm same
        rw [decide_eq_false same, List.find?_filter, kept, inductionHypothesis]

theorem distinct_firstOfEach (items : List Item) :
    ((firstOfEach nameOf items).map nameOf).Nodup := by
  induction items with
  | nil => exact List.nodup_nil
  | cons first rest inductionHypothesis =>
      rw [firstOfEach, List.map_cons, List.nodup_cons]
      constructor
      · intro member
        obtain ⟨other, kept, same⟩ := List.mem_map.mp member
        exact of_decide_eq_true (List.mem_filter.mp kept).2 same
      · exact inductionHypothesis.sublist (List.filter_sublist.map nameOf)

/-- One more item counts only if its name is new. -/
theorem firstOfEach_append (items : List Item) (item : Item) :
    firstOfEach nameOf (items ++ [item]) =
      if nameOf item ∈ items.map nameOf then firstOfEach nameOf items
      else firstOfEach nameOf items ++ [item] := by
  induction items with
  | nil => rfl
  | cons first rest inductionHypothesis =>
      rw [List.cons_append, firstOfEach, inductionHypothesis, List.map_cons, firstOfEach]
      by_cases again : nameOf item ∈ rest.map nameOf
      · rw [if_pos again, if_pos (List.mem_cons_of_mem _ again)]
      · rw [if_neg again, List.filter_append]
        by_cases same : nameOf item = nameOf first
        · have known : nameOf item ∈ nameOf first :: rest.map nameOf := same ▸ List.mem_cons_self
          rw [if_pos known, List.filter_cons_of_neg (by simpa using same), List.filter_nil,
            List.append_nil]
        · have fresh : ¬ nameOf item ∈ nameOf first :: rest.map nameOf := by simp [same, again]
          rw [if_neg fresh, List.filter_cons_of_pos (by simpa using same), List.filter_nil,
            List.cons_append]

theorem lookup_named (items : List Item) (name : String) :
    (items.map fun item => (nameOf item, item)).lookup name =
      items.find? (nameOf · = name) := by
  induction items with
  | nil => rfl
  | cons first rest inductionHypothesis =>
      rw [List.map_cons, Fields.lookup_cons_eq, List.find?_cons, inductionHypothesis]
      by_cases same : nameOf first = name
      · rw [if_pos same.symm, decide_eq_true same]
      · rw [if_neg (Ne.symm same), decide_eq_false same]

end names

variable {Data : Type} (catalogue : Catalogue Data)

def Catalogue.nameOf (type : TypeId) : String := (catalogue.describe type).name

namespace Registry

/-- The registry that some attempts leave when they begin with an empty one. -/
def ofAttempts (types : List TypeId) : Registry :=
  (firstOfEach catalogue.nameOf types).map fun type => (catalogue.nameOf type, type)

theorem get?_ofAttempts (types : List TypeId) (name : String) :
    (ofAttempts catalogue types).get? name = types.find? (catalogue.nameOf · = name) := by
  rw [get?, ofAttempts, lookup_named, find?_firstOfEach]

theorem register_ofAttempts (types : List TypeId) (type : TypeId) :
    (ofAttempts catalogue types).register catalogue type =
      if catalogue.nameOf type ∈ types.map catalogue.nameOf then
        .error (.typeRegistered (catalogue.nameOf type))
      else .ok (ofAttempts catalogue (types ++ [type])) := by
  have found : (ofAttempts catalogue types).lookup (catalogue.nameOf type) =
      types.find? (catalogue.nameOf · = catalogue.nameOf type) := get?_ofAttempts catalogue types _
  unfold register
  dsimp only
  rw [show (catalogue.describe type).name = catalogue.nameOf type from rfl, found]
  by_cases known : catalogue.nameOf type ∈ types.map catalogue.nameOf
  · obtain ⟨first, member, same⟩ := List.mem_map.mp known
    have some_ : (types.find? (catalogue.nameOf · = catalogue.nameOf type)).isSome = true :=
      List.find?_isSome.mpr ⟨first, member, decide_eq_true same⟩
    obtain ⟨other, at_⟩ := Option.isSome_iff_exists.mp some_
    rw [at_, if_pos known]
  · have none_ : types.find? (catalogue.nameOf · = catalogue.nameOf type) = none := by
      rw [List.find?_eq_none]
      intro other member same
      exact known (List.mem_map.mpr ⟨other, member, of_decide_eq_true same⟩)
    rw [none_, if_neg known, ofAttempts, ofAttempts, firstOfEach_append, if_neg known,
      List.map_append, List.map_singleton]

theorem attempt_ofAttempts (types : List TypeId) (type : TypeId) :
    (ofAttempts catalogue types).attempt catalogue type =
      ofAttempts catalogue (types ++ [type]) := by
  rw [attempt, register_ofAttempts]
  by_cases known : catalogue.nameOf type ∈ types.map catalogue.nameOf
  · rw [if_pos known, ofAttempts, ofAttempts, firstOfEach_append, if_pos known]
  · rw [if_neg known]

theorem foldl_attempt (seeds types : List TypeId) :
    types.foldl (attempt catalogue) (ofAttempts catalogue seeds) =
      ofAttempts catalogue (seeds ++ types) := by
  induction types generalizing seeds with
  | nil => rw [List.foldl_nil, List.append_nil]
  | cons type rest inductionHypothesis =>
      rw [List.foldl_cons, attempt_ofAttempts, inductionHypothesis, List.append_assoc,
        List.singleton_append]

/-- What a registry tells after the types were tried in this order. -/
structure KeepsFirst (types : List TypeId) (registry : Registry) : Prop where
  get : ∀ name, registry.get? name = types.find? (catalogue.nameOf · = name)
  has : ∀ name, registry.has name = true ↔ ∃ type ∈ types, catalogue.nameOf type = name
  ordered : registry.types = firstOfEach catalogue.nameOf types
  distinct : (registry.types.map catalogue.nameOf).Nodup
  increasing : registry.names.Pairwise Text.Before
  complete : registry.names.Perm (registry.types.map catalogue.nameOf)

theorem keepsFirst_ofAttempts (types : List TypeId) :
    KeepsFirst catalogue types (ofAttempts catalogue types) := by
  have ordered : (ofAttempts catalogue types).types = firstOfEach catalogue.nameOf types := by
    rw [Registry.types, ofAttempts, List.map_map]
    exact List.map_id _
  have keys : (ofAttempts catalogue types).map Prod.fst =
      (firstOfEach catalogue.nameOf types).map catalogue.nameOf := by
    rw [ofAttempts, List.map_map]
    rfl
  have distinct : ((firstOfEach catalogue.nameOf types).map catalogue.nameOf).Nodup :=
    distinct_firstOfEach types
  refine ⟨get?_ofAttempts catalogue types, ?_, ordered, ?_, ?_, ?_⟩
  · intro name
    rw [has, get?_ofAttempts, List.find?_isSome]
    simp only [decide_eq_true_eq]
  · rwa [ordered]
  · rw [names, keys]
    exact Text.pairwise_before_mergeSort distinct
  · rw [names, keys, ordered]
    exact List.mergeSort_perm _ _

end Registry

/-- A registry of a run tells of the first attempts, and so does the next attempt: it is refused in
place exactly if its name was tried before. -/
structure State.Registers (state : State Data) (reference : Ref Registry) (types : List TypeId) :
    Prop where
  keeps : (state.registries.get reference).KeepsFirst catalogue types
  refused : ∀ type, (∃ earlier ∈ types, catalogue.nameOf earlier = catalogue.nameOf type) →
    (Action.register catalogue reference type).run state =
      (.error (.typeRegistered (catalogue.nameOf type)), state)
  accepted : ∀ type, (¬ ∃ earlier ∈ types, catalogue.nameOf earlier = catalogue.nameOf type) →
    ((Action.register catalogue reference type).run state).1 = .ok ()

theorem State.registers_of_attempts {state : State Data} {reference : Ref Registry}
    {types : List TypeId}
    (held : state.registries.get reference = Registry.ofAttempts catalogue types) :
    state.Registers catalogue reference types := by
  have run (type : TypeId) := Action.run_register catalogue reference type state
  simp only [held, Registry.register_ofAttempts, List.mem_map] at run
  refine ⟨held ▸ Registry.keepsFirst_ofAttempts catalogue types, ?_, ?_⟩
  · intro type known
    rw [run, if_pos known]
  · intro type fresh
    rw [run, if_neg fresh]

/-- At every point of every run a registry that began empty keeps the first type of each name that
was tried in it. The standard registry does so as if the type of resolutions was tried first. -/
theorem registry_keeps_first (earlier later : List (Operation Data)) :
    let reference := (session catalogue earlier).registries.next
    let types := attempts reference later
    (session catalogue (later ++ .addRegistry [] :: earlier)).Registers catalogue reference types ∧
      (session catalogue (later ++ .addRegistry Registry.standard :: earlier)).Registers catalogue
        reference (.resolution :: types) := by
  intro reference types
  have follows (seeds : List TypeId) :
      (session catalogue (later ++
        .addRegistry (Registry.ofAttempts catalogue seeds) :: earlier)).Registers catalogue
          reference (seeds ++ types) := by
    apply State.registers_of_attempts
    have exist : (session catalogue
        (.addRegistry (Registry.ofAttempts catalogue seeds) :: earlier)).registries.has reference =
          true := Store.has_add_next _ _
    rw [(session_registry exist later).2, ← Registry.foldl_attempt]
    congr 1
    exact Store.get_add_next _ _
  exact ⟨follows [], follows [.resolution]⟩

end CommandWords
