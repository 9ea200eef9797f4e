import DocumentTypes.Proofs.Kinds

/-! # Life

The types that are alive are the largest group in which each one is a root or is held by
another one of the group. So a type is shown to be alive by any group of this kind, and
nothing that is held comes to life by a change after which types hold only what they
sustained before. -/

namespace DocumentTypes.Store

variable {store before after : Store} {id holder middle : TypeId} {candidates : List TypeId}

/-! ## Survivors -/

theorem mem_ids_iff : id ∈ store.ids ↔ id.position < store.types.size := by
  constructor
  · intro member
    rcases List.mem_map.mp member with ⟨position, inRange, rfl⟩
    exact List.mem_range.mp inRange
  · intro inside
    exact List.mem_map.mpr ⟨id.position, List.mem_range.mpr inside, rfl⟩

theorem mem_supported_iff : id ∈ store.supported candidates ↔ id ∈ candidates ∧
    (id ∈ store.roots ∨ ∃ holder ∈ candidates, store.holdsType holder id = true) := by
  simp [supported]

/-- Every round that changes anything drops a candidate, so enough rounds come to an end. -/
theorem supported_survivors {rounds : Nat} (few : candidates.length ≤ rounds) :
    store.supported (store.survivors rounds candidates) = store.survivors rounds candidates := by
  induction rounds generalizing candidates with
  | zero =>
      rw [List.length_eq_zero_iff.mp (Nat.le_zero.mp few)]
      rfl
  | succ rounds induction =>
      unfold survivors
      dsimp only
      by_cases all : (store.supported candidates).length = candidates.length
      · rw [if_pos all]
        exact List.filter_eq_self.mpr (List.length_filter_eq_length_iff.mp all)
      · have fewer : (store.supported candidates).length ≤ candidates.length :=
          List.length_filter_le _ _
        rw [if_neg all]
        exact induction (by omega)

theorem mem_survivors_of_supported {group : TypeId → Prop}
    (supports : ∀ id, group id → id ∈ store.roots ∨
      ∃ holder, group holder ∧ store.holdsType holder id = true)
    (rounds : Nat) (among : ∀ id, group id → id ∈ candidates) (member : group id) :
    id ∈ store.survivors rounds candidates := by
  induction rounds generalizing candidates with
  | zero => exact among id member
  | succ rounds induction =>
      unfold survivors
      dsimp only
      split
      · exact among id member
      · refine induction fun other otherMember => mem_supported_iff.mpr ⟨among other otherMember, ?_⟩
        rcases supports other otherMember with root | ⟨holder, holderMember, holds⟩
        · exact .inl root
        · exact .inr ⟨holder, among holder holderMember, holds⟩

/-! ## What is alive -/

theorem isAlive_of_supported {group : TypeId → Prop}
    (inside : ∀ id, group id → id.position < store.types.size)
    (supports : ∀ id, group id → id ∈ store.roots ∨
      ∃ holder, group holder ∧ store.holdsType holder id = true)
    (member : group id) : store.isAlive id = true :=
  List.contains_iff_mem.mpr (mem_survivors_of_supported supports _
    (fun other otherMember => mem_ids_iff.mpr (inside other otherMember)) member)

theorem support_of_isAlive (alive : store.isAlive id = true) :
    id ∈ store.roots ∨ ∃ holder, store.isAlive holder = true ∧
      store.holdsType holder id = true := by
  have stable : store.supported (store.survivors store.types.size store.ids) =
      store.survivors store.types.size store.ids :=
    supported_survivors (by simp [ids])
  have member := List.contains_iff_mem.mp alive
  rw [← stable, mem_supported_iff] at member
  rcases member.2 with root | ⟨holder, holderMember, holds⟩
  · exact .inl root
  · exact .inr ⟨holder, List.contains_iff_mem.mpr holderMember, holds⟩

theorem survivors_subset (rounds : Nat) (candidates : List TypeId) :
    store.survivors rounds candidates ⊆ candidates := by
  induction rounds generalizing candidates with
  | zero => exact List.Subset.refl _
  | succ rounds induction =>
      unfold survivors
      dsimp only
      split
      · exact List.Subset.refl _
      · exact fun _ member => (mem_supported_iff.mp (induction _ member)).1

theorem position_lt_of_isAlive (alive : store.isAlive id = true) :
    id.position < store.types.size :=
  mem_ids_iff.mp (survivors_subset _ _ (List.contains_iff_mem.mp alive))

/-- With more roots, and with types that hold more, more is alive. -/
theorem isAlive_mono (size : before.types.size ≤ after.types.size)
    (roots : ∀ id ∈ before.roots, id ∈ after.roots)
    (holds : ∀ holder id, before.holdsType holder id = true → after.holdsType holder id = true)
    (alive : before.isAlive id = true) : after.isAlive id = true := by
  have inside (id : TypeId) (alive : before.isAlive id = true) :
      id.position < after.types.size :=
    Nat.lt_of_lt_of_le (position_lt_of_isAlive alive) size
  have supports (id : TypeId) (alive : before.isAlive id = true) : id ∈ after.roots ∨
      ∃ holder, before.isAlive holder = true ∧ after.holdsType holder id = true :=
    (support_of_isAlive alive).imp (roots id) fun ⟨holder, holderAlive, held⟩ =>
      ⟨holder, holderAlive, holds holder id held⟩
  exact isAlive_of_supported inside supports alive

theorem holdsType_iff : store.holdsType holder id = true ↔
    ∃ type, store.type? holder = some type ∧ id ∈ type.held := by
  rw [holdsType, Option.any_eq_true]
  simp only [List.contains_iff_mem]

theorem position_lt_of_holdsType (holds : store.holdsType holder id = true) :
    holder.position < store.types.size := by
  rcases holdsType_iff.mp holds with ⟨type, found, -⟩
  exact position_lt found

/-- What lives anyway, and what lives as long as a type does. -/
inductive Sustains (store : Store) (holder : TypeId) : TypeId → Prop
  | root {id : TypeId} (root : id ∈ store.roots) : Sustains store holder id
  | alive {id : TypeId} (alive : store.isAlive id = true) : Sustains store holder id
  | held {id : TypeId} (holds : store.holdsType holder id = true) : Sustains store holder id
  | beyond {middle id : TypeId} (first : Sustains store holder middle)
      (holds : store.holdsType middle id = true) : Sustains store holder id

theorem Sustains.trans (first : store.Sustains holder middle) (second : store.Sustains middle id) :
    store.Sustains holder id := by
  induction second with
  | root root => exact .root root
  | alive alive => exact .alive alive
  | held holds => exact .beyond first holds
  | beyond _ holds induction => exact .beyond induction holds

/-! ## Letting go -/

/-- Types hold at most what they sustained before. -/
structure Loosened (before after : Store) : Prop where
  roots_eq : after.roots = before.roots
  size_eq : after.types.size = before.types.size
  sustains : ∀ holder id, after.holdsType holder id = true → before.Sustains holder id

namespace Loosened

theorem refl (store : Store) : Loosened store store where
  roots_eq := rfl
  size_eq := rfl
  sustains _ _ := .held

theorem isAlive (loosened : before.Loosened after) (alive : after.isAlive id = true) :
    before.isAlive id = true := by
  -- The group is what is alive before or after, with all that the latter sustained.
  let group (id : TypeId) : Prop := id.position < before.types.size ∧ (before.isAlive id = true ∨
    after.isAlive id = true ∨ ∃ holder, after.isAlive holder = true ∧ before.Sustains holder id)
  have early {id : TypeId} (alive : before.isAlive id = true) : group id :=
    ⟨position_lt_of_isAlive alive, .inl alive⟩
  have late {id : TypeId} (alive : after.isAlive id = true) : group id :=
    ⟨loosened.size_eq ▸ position_lt_of_isAlive alive, .inr (.inl alive)⟩
  have supportsEarly {id : TypeId} (alive : before.isAlive id = true) :
      id ∈ before.roots ∨ ∃ holder, group holder ∧ before.holdsType holder id = true :=
    (support_of_isAlive alive).imp_right fun ⟨holder, alive, holds⟩ => ⟨holder, early alive, holds⟩
  have supportsSustained {id holder : TypeId} (alive : after.isAlive holder = true)
      (sustained : before.Sustains holder id) :
      id ∈ before.roots ∨ ∃ holder, group holder ∧ before.holdsType holder id = true := by
    cases sustained with
    | root root => exact .inl root
    | alive alive => exact supportsEarly alive
    | held holds => exact .inr ⟨holder, late alive, holds⟩
    | @beyond middle _ first holds =>
        have inside := position_lt_of_holdsType holds
        exact .inr ⟨middle, ⟨inside, .inr (.inr ⟨holder, alive, first⟩)⟩, holds⟩
  refine isAlive_of_supported (fun _ member => member.1) (fun id member => ?_) (late alive)
  rcases member.2 with alive | alive | ⟨holder, alive, sustained⟩
  · exact supportsEarly alive
  · rcases support_of_isAlive alive with root | ⟨holder, holderAlive, holds⟩
    · exact .inl (loosened.roots_eq ▸ root)
    · exact supportsSustained holderAlive (loosened.sustains holder id holds)
  · exact supportsSustained alive sustained

theorem of_sustains (loosened : before.Loosened after) (sustained : after.Sustains holder id) :
    before.Sustains holder id := by
  induction sustained with
  | root root => exact .root (loosened.roots_eq ▸ root)
  | alive alive => exact .alive (loosened.isAlive alive)
  | held holds => exact loosened.sustains _ _ holds
  | beyond _ holds induction => exact induction.trans (loosened.sustains _ _ holds)

theorem trans {first second third : Store} (earlier : first.Loosened second)
    (later : second.Loosened third) : first.Loosened third where
  roots_eq := later.roots_eq.trans earlier.roots_eq
  size_eq := later.size_eq.trans earlier.size_eq
  sustains holder id holds := earlier.of_sustains (later.sustains holder id holds)

end Loosened

theorem Sustains.of_resolve {reference : TypeRef} (found : store.resolve reference = some id)
    (holds : ∀ other ∈ reference.held, store.Sustains holder other) : store.Sustains holder id := by
  have registered {other : TypeId} (member : other ∈ store.registry.held) :
      store.Sustains holder other := .root (List.mem_append_left _ member)
  unfold resolve at found
  split at found
  · cases found
  · split at found
    · refine registered ?_
      simp [Registry.held, Table.mem_values_iff.mpr ⟨_, found⟩]
    · cases found
  · split at found
    · refine registered ?_
      simp [Registry.held, Table.mem_values_iff.mpr ⟨_, found⟩]
    · cases found
  · cases found
    exact holds id List.mem_cons_self
  · split at found
    next alive =>
      cases found
      exact .alive alive
    next => cases found

end DocumentTypes.Store
