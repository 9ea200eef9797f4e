import DocumentTypes.Store.Basic

/-! # Running actions

An action is run on a store and leaves another one. Two properties of actions are
used throughout, and both pass from the parts of an action to the whole: an action may
keep an invariant, or treat two related stores alike. -/

namespace DocumentTypes

variable {α β : Type}

/-! ## Equations -/

namespace Action

@[simp] theorem run_pure (answer : α) (store : Store) :
    (pure answer : Action α).run store = (answer, store) := rfl

@[simp] theorem run_bind (action : Action α) (next : α → Action β) (store : Store) :
    (action >>= next).run store = (next (action.run store).1).run (action.run store).2 := rfl

@[simp] theorem run_get (store : Store) : (get : Action Store).run store = (store, store) := rfl

@[simp] theorem run_modify (change : Store → Store) (store : Store) :
    (modify change : Action PUnit).run store = (⟨⟩, change store) := rfl

@[simp] theorem run_type? (id : TypeId) (store : Store) :
    (type? id).run store = (store.type? id, store) := rfl

@[simp] theorem run_resolve (reference : TypeRef) (store : Store) :
    (resolve reference).run store = (store.resolve reference, store) := rfl

@[simp] theorem run_note (notice : Notice) (store : Store) :
    (note notice).run store = (⟨⟩, store.note notice) := rfl

end Action

instance decidableEqOutcome [DecidableEq α] : DecidableEq (Except Failure α)
  | .ok answer, .ok other => decidable_of_iff (answer = other) ⟨congrArg _, Except.ok.inj⟩
  | .error failure, .error other =>
      decidable_of_iff (failure = other) ⟨congrArg _, Except.error.inj⟩
  | .ok _, .error _ => isFalse nofun
  | .error _, .ok _ => isFalse nofun

namespace Attempt

@[simp] theorem run_pure (answer : α) (store : Store) :
    (pure answer : Attempt α).run.run store = (.ok answer, store) := rfl

@[simp] theorem run_lift (action : Action α) (store : Store) :
    (liftM action : Attempt α).run.run store =
      (.ok (action.run store).1, (action.run store).2) := rfl

@[simp] theorem run_liftExcept (outcome : Except Failure α) (store : Store) :
    (liftM outcome : Attempt α).run.run store = (outcome, store) := rfl

theorem run_bind (attempt : Attempt α) (next : α → Attempt β) (store : Store) :
    (attempt >>= next).run.run store =
      match attempt.run.run store with
      | (.ok answer, middle) => (next answer).run.run middle
      | (.error failure, middle) => (.error failure, middle) := by
  change (ExceptT.bindCont next (attempt.run.run store).1).run (attempt.run.run store).2 = _
  rcases attempt.run.run store with ⟨outcome, middle⟩
  cases outcome <;> rfl

theorem run_bind_ok {attempt : Attempt α} {store middle : Store} {answer : α}
    (succeeds : attempt.run.run store = (.ok answer, middle)) (next : α → Attempt β) :
    (attempt >>= next).run.run store = (next answer).run.run middle := by
  rw [run_bind, succeeds]

theorem run_bind_type? (id : TypeId) (next : Option DocumentType → Attempt α) (store : Store) :
    ((liftM (Action.type? id) : Attempt _) >>= next).run.run store =
      (next (store.type? id)).run.run store := rfl

theorem run_eq_error {attempt : Attempt α} {store : Store} {failure : Failure}
    (failed : (attempt.run.run store).1 = .error failure) :
    attempt.run.run store = (.error failure, (attempt.run.run store).2) :=
  Prod.ext failed rfl

theorem run_eq_ok {attempt : Attempt α} {store : Store} {answer : α}
    (succeeds : (attempt.run.run store).1 = .ok answer) :
    attempt.run.run store = (.ok answer, (attempt.run.run store).2) :=
  Prod.ext succeeds rfl

theorem ok_of_run_bind {attempt : Attempt α} {next : α → Attempt β} {store after : Store}
    {result : β} (succeeds : (attempt >>= next).run.run store = (.ok result, after)) :
    ∃ answer middle, attempt.run.run store = (.ok answer, middle) ∧
      (next answer).run.run middle = (.ok result, after) := by
  rw [run_bind] at succeeds
  rcases first : attempt.run.run store with ⟨outcome, middle⟩
  rw [first] at succeeds
  cases outcome with
  | ok answer => exact ⟨answer, middle, rfl, succeeds⟩
  | error failure => cases succeeds

end Attempt

/-! ## Invariants -/

def Action.Preserves (Invariant : Store → Prop) (action : Action α) : Prop :=
  ∀ store, Invariant store → Invariant (action.run store).2

namespace Action.Preserves

variable {Invariant : Store → Prop}

theorem pure (answer : α) : Preserves Invariant (pure answer : Action α) :=
  fun _ holds => holds

theorem bind {action : Action α} {next : α → Action β} (first : Preserves Invariant action)
    (second : ∀ answer, Preserves Invariant (next answer)) :
    Preserves Invariant (action >>= next) :=
  fun store holds => second _ _ (first store holds)

theorem forM {action : α → Action PUnit} (values : List α)
    (each : ∀ value ∈ values, Preserves Invariant (action value)) :
    Preserves Invariant (values.forM action) := by
  induction values with
  | nil => exact pure _
  | cons value rest induction =>
      exact bind (each value List.mem_cons_self) fun _ =>
        induction fun other member => each other (List.mem_cons_of_mem _ member)

theorem foldlM {action : β → α → Action β} (each : ∀ result value,
      Preserves Invariant (action result value)) :
    ∀ (values : List α) (start : β), Preserves Invariant (values.foldlM action start)
  | [], start => pure start
  | value :: rest, start => by
      rw [List.foldlM_cons]
      exact bind (each start value) fun result => foldlM each rest result

theorem type? (id : TypeId) : Preserves Invariant (type? id) := fun _ holds => holds

theorem resolve (reference : TypeRef) : Preserves Invariant (resolve reference) :=
  fun _ holds => holds

theorem mapM {action : α → Action β} (values : List α)
    (each : ∀ value, Preserves Invariant (action value)) :
    Preserves Invariant (values.mapM action) := by
  induction values with
  | nil => exact pure _
  | cons value rest induction =>
      rw [List.mapM_cons]
      exact bind (each value) fun _ => bind induction fun _ => pure _

theorem attempt_bind {attempt : Attempt α} {next : α → Attempt β}
    (first : Preserves Invariant attempt.run)
    (second : ∀ answer, Preserves Invariant (next answer).run) :
    Preserves Invariant (attempt >>= next).run := by
  intro store holds
  have kept := first store holds
  rw [Attempt.run_bind]
  rcases result : attempt.run.run store with ⟨outcome, middle⟩
  rw [result] at kept
  cases outcome with
  | ok answer => exact second answer middle kept
  | error failure => exact kept

theorem attempt_bind_answer {action : Action α} {next : α → Attempt β}
    (first : Preserves Invariant action)
    (second : ∀ store, Preserves Invariant (next (action.run store).1).run) :
    Preserves Invariant ((liftM action : Attempt α) >>= next).run :=
  fun store holds => second store _ (first store holds)

theorem attempt_forM {action : α → Attempt PUnit} (values : List α)
    (each : ∀ value ∈ values, Preserves Invariant (action value).run) :
    Preserves Invariant (values.forM action).run := by
  induction values with
  | nil => exact pure _
  | cons value rest induction =>
      exact attempt_bind (each value List.mem_cons_self) fun _ =>
        induction fun other member => each other (List.mem_cons_of_mem _ member)

theorem attempt_mapM {action : α → Attempt β} (values : List α)
    (each : ∀ value, Preserves Invariant (action value).run) :
    Preserves Invariant (values.mapM action).run := by
  induction values with
  | nil => exact pure _
  | cons value rest induction =>
      rw [List.mapM_cons]
      exact attempt_bind (each value) fun _ => attempt_bind induction fun _ => pure _

end Action.Preserves

/-! ## Two runs -/

/-- An action gives the same answer on related stores and leaves related stores. -/
def Action.Respects (Alike : Store → Store → Prop) (action : Action α) : Prop :=
  ∀ left right, Alike left right →
    (action.run left).1 = (action.run right).1 ∧ Alike (action.run left).2 (action.run right).2

namespace Action.Respects

variable {Alike : Store → Store → Prop}

theorem pure (answer : α) : Respects Alike (pure answer : Action α) :=
  fun _ _ alike => ⟨rfl, alike⟩

theorem bind {action : Action α} {next : α → Action β} (first : Respects Alike action)
    (second : ∀ answer, Respects Alike (next answer)) : Respects Alike (action >>= next) := by
  intro left right alike
  have related := first left right alike
  rw [run_bind, run_bind, related.1]
  exact second _ _ _ related.2

theorem foldlM {action : β → α → Action β} (each : ∀ result value,
      Respects Alike (action result value)) :
    ∀ (values : List α) (start : β), Respects Alike (values.foldlM action start)
  | [], start => pure start
  | value :: rest, start => by
      rw [List.foldlM_cons]
      exact bind (each start value) fun result => foldlM each rest result

end Action.Respects
end DocumentTypes
