/-
This file defines stores, which give their entries a lasting identity.
-/

namespace CommandWords

/-- A reference names an entry of a store. -/
structure Ref (Entry : Type) where
  number : Nat

theorem Ref.ext_iff {Entry : Type} {first second : Ref Entry} :
    first = second ↔ first.number = second.number := by
  cases first
  cases second
  simp

instance {Entry : Type} : DecidableEq (Ref Entry) := fun _ _ =>
  decidable_of_iff _ Ref.ext_iff.symm

/-- A reference that was never given out has a blank entry. -/
structure Store (Entry : Type) where
  size : Nat
  get : Ref Entry → Entry

namespace Store

variable {Entry : Type}

def empty (blank : Entry) : Store Entry := ⟨0, fun _ => blank⟩

def set (store : Store Entry) (reference : Ref Entry) (entry : Entry) : Store Entry :=
  { store with get := fun other => if other = reference then entry else store.get other }

/-- The reference of the next new entry. -/
def next (store : Store Entry) : Ref Entry := ⟨store.size⟩

def add (store : Store Entry) (entry : Entry) : Store Entry :=
  { store.set store.next entry with size := store.size + 1 }

/-- Whether a reference was given out. -/
def has (store : Store Entry) (reference : Ref Entry) : Bool := reference.number < store.size

/-- What was given out is not what comes next. -/
theorem ne_next_of_has {store : Store Entry} {reference : Ref Entry}
    (given : store.has reference = true) : reference ≠ store.next := by
  rintro rfl
  exact Nat.lt_irrefl _ (of_decide_eq_true given)

/-- What is there after an entry was added is this entry or was there before. -/
theorem has_of_add {store : Store Entry} {reference : Ref Entry} {entry : Entry}
    (different : reference ≠ store.next) (given : (store.add entry).has reference = true) :
    store.has reference = true := by
  have bound : reference.number < store.size + 1 := of_decide_eq_true given
  have apart : reference.number ≠ store.size := fun same => different (Ref.ext_iff.mpr same)
  exact decide_eq_true (by omega)

@[simp] theorem get_set_self (store : Store Entry) (reference : Ref Entry) (entry : Entry) :
    (store.set reference entry).get reference = entry := by
  simp [set]

theorem get_set_other (store : Store Entry) {reference other : Ref Entry}
    (different : other ≠ reference) (entry : Entry) :
    (store.set reference entry).get other = store.get other := by
  simp [set, different]

@[simp] theorem size_set (store : Store Entry) (reference : Ref Entry) (entry : Entry) :
    (store.set reference entry).size = store.size := rfl

theorem set_get (store : Store Entry) (reference : Ref Entry) :
    store.set reference (store.get reference) = store := by
  have unchanged : (fun other => if other = reference then store.get reference else store.get other)
      = store.get := by
    funext other
    split <;> simp_all
  simp only [set, unchanged]

theorem set_set (store : Store Entry) (reference : Ref Entry) (first second : Entry) :
    (store.set reference first).set reference second = store.set reference second := by
  have hidden : (fun other => if other = reference then second else
      (store.set reference first).get other) =
        fun other => if other = reference then second else store.get other := by
    funext other
    by_cases same : other = reference
    · simp only [same, if_true]
    · simp only [same, if_false, store.get_set_other same]
  simp only [set] at hidden ⊢
  rw [hidden]

@[simp] theorem get_add_next (store : Store Entry) (entry : Entry) :
    (store.add entry).get store.next = entry := by
  simp [add, set]

theorem get_add_other (store : Store Entry) {other : Ref Entry} (different : other ≠ store.next)
    (entry : Entry) : (store.add entry).get other = store.get other := by
  simp [add, set, different]

/-- What was given out is still there after an entry was added, and as it was. -/
theorem has_add {store : Store Entry} {reference : Ref Entry}
    (given : store.has reference = true) (entry : Entry) :
    (store.add entry).has reference = true :=
  decide_eq_true (Nat.lt_succ_of_lt (of_decide_eq_true given))

theorem get_add_of_has {store : Store Entry} {reference : Ref Entry}
    (given : store.has reference = true) (entry : Entry) :
    (store.add entry).get reference = store.get reference :=
  store.get_add_other (ne_next_of_has given) entry

theorem has_add_next (store : Store Entry) (entry : Entry) :
    (store.add entry).has store.next = true :=
  decide_eq_true (Nat.lt_succ_self store.size)

@[simp] theorem size_add (store : Store Entry) (entry : Entry) :
    (store.add entry).size = store.size + 1 := rfl

end Store

end CommandWords
