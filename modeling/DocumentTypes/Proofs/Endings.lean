import DocumentTypes.Proofs.FreshInstances
import DocumentTypes.Proofs.ShownFields

/-! # Endings

A merger waits for the mergers of outdated composites among the schemas. So it ends if no
composite on the way waits for itself, and then the bound on nested mergers is never met. Nor
does it end if one does, unless its references lead back to declaring types, which may be gone
by the time they are followed. In the same way an instance ends if no type in it is part of
itself. -/

namespace DocumentTypes

open Relation (ReflTransGen TransGen)

/-- The types passed on the way to another one, each of them once. -/
structure Passage (leads : TypeId → TypeId → Prop) (root id : TypeId) (passed : List TypeId) :
    Prop where
  reached : ReflTransGen leads root id
  ahead : ∀ other ∈ passed, TransGen leads other id
  once : (id :: passed).Nodup

namespace Passage

variable {leads : TypeId → TypeId → Prop} {root id child : TypeId} {passed : List TypeId}

theorem start (leads : TypeId → TypeId → Prop) (root : TypeId) : Passage leads root root [] where
  reached := .refl
  ahead := List.forall_mem_nil _
  once := List.nodup_singleton root

theorem step (passage : Passage leads root id passed)
    (free : ∀ inner, ReflTransGen leads root inner → ¬TransGen leads inner inner)
    (next : leads id child) : Passage leads root child (id :: passed) := by
  have ahead : ∀ other ∈ id :: passed, TransGen leads other child := by
    refine List.forall_mem_cons.mpr ⟨.single next, fun other member => ?_⟩
    exact (passage.ahead other member).tail next
  refine ⟨passage.reached.tail next, ahead, List.nodup_cons.mpr ⟨fun again => ?_, passage.once⟩⟩
  exact free child (passage.reached.tail next) (ahead child again)

/-- On the way there are fewer types than in the store. -/
theorem length_lt {store : Store} (passage : Passage leads root id passed)
    (inside : id.position < store.types.size)
    (insides : ∀ {one other}, leads one other → one.position < store.types.size) :
    passed.length < store.types.size := by
  refine Store.length_le_of_nodup passage.once (List.forall_mem_cons.mpr ⟨inside, ?_⟩)
  intro other member
  rcases TransGen.head'_iff.mp (passage.ahead other member) with ⟨_, next, -⟩
  exact insides next

end Passage

namespace Store

def Outdated (store : Store) (id : TypeId) : Prop :=
  ∃ composite ∈ store.compositeAt? id, composite.isCurrent = false

/-- An outdated composite refers to another one, which is to be merged first. -/
def Awaits (store : Store) (id other : TypeId) : Prop :=
  ∃ composite ∈ store.compositeAt? id, composite.isCurrent = false ∧
    (∃ reference ∈ composite.references.values, store.resolve reference = some other) ∧
    store.Outdated other

def Circular (store : Store) (id : TypeId) : Prop :=
  ∃ other, ReflTransGen store.Awaits id other ∧ TransGen store.Awaits other other

variable {start store later : Store} {id other : TypeId} {composite : CompositeType}

theorem stalls_note {notice : Notice} (ends : notice ≠ .endless) :
    (store.note notice).stalls = store.stalls :=
  List.count_cons_of_ne ends

theorem stalls_setKind (id : TypeId) (kind : TypeKind) :
    (store.setKind id kind).stalls = store.stalls := by
  unfold stalls setKind
  cases store.type? id <;> rfl

theorem Observed.stalls_le (observed : store.Observed later) : store.stalls ≤ later.stalls := by
  induction observed with
  | refl => exact Nat.le_refl _
  | trans _ _ first second => exact Nat.le_trans first second
  | noted => exact List.count_le_count_cons
  | looked | merged => exact Nat.le_of_eq (stalls_setKind ..).symm
  | remembered => exact Nat.le_refl _

theorem Awaits.outdated (awaits : store.Awaits id other) : store.Outdated id := by
  rcases awaits with ⟨composite, found, outdated, -⟩
  exact ⟨composite, found, outdated⟩

theorem Outdated.position_lt (outdated : store.Outdated id) :
    id.position < store.types.size := by
  rcases outdated with ⟨composite, found, -⟩
  rcases type_of_compositeAt? found with ⟨type, typeFound, -⟩
  exact Store.position_lt typeFound

theorem Circular.next (circular : store.Circular id) :
    ∃ other, store.Awaits id other ∧ store.Circular other := by
  rcases circular with ⟨last, reached, turns⟩
  rcases ReflTransGen.cases_head reached with rfl | ⟨other, awaits, onward⟩
  · rcases TransGen.head'_iff.mp turns with ⟨other, awaits, back⟩
    exact ⟨other, awaits, id, back, turns⟩
  · exact ⟨other, awaits, last, onward, turns⟩

namespace Steady

/-- To read types brings composites up to date, and never puts them out of date. -/
theorem outdated (steady : store.Steady later) (outdated : later.Outdated id) :
    store.Outdated id := by
  rcases outdated with ⟨composite, found, notNow⟩
  rcases steady.sameDeclared.symm.compositeAt? found with ⟨merged, earlier⟩
  refine ⟨_, earlier, eq_false_of_ne_true fun now => ?_⟩
  have same := Option.some.inj (found.symm.trans (steady.current id _ earlier now))
  rw [same, now] at notNow
  cases notNow

theorem awaits (steady : store.Steady later) (awaits : later.Awaits id other) :
    store.Awaits id other := by
  have outdated := steady.outdated awaits.outdated
  rcases awaits with ⟨composite, found, -, ⟨reference, member, resolved⟩, awaited⟩
  rcases steady.sameDeclared.symm.compositeAt? found with ⟨merged, earlier⟩
  rcases outdated with ⟨same, sameFound, notNow⟩
  cases Option.some.inj (earlier.symm.trans sameFound)
  exact ⟨_, earlier, notNow, ⟨reference, member, steady.resolve resolved⟩,
    steady.outdated awaited⟩

theorem circular (steady : store.Steady later) (circular : later.Circular id) :
    store.Circular id := by
  rcases circular with ⟨other, reached, turns⟩
  exact ⟨other, ReflTransGen.mono (fun _ _ => steady.awaits) _ _ reached,
    TransGen.mono (fun _ _ => steady.awaits) _ _ turns⟩

end Steady
end Store

namespace Action

variable {α β : Type} {start store : Store} {root id : TypeId} {composite : CompositeType}
  {depth : Nat}

def Ends (action : Action α) (store : Store) : Prop :=
  (action.run store).2.stalls = store.stalls

theorem Ends.bind {action : Action α} {next : α → Action β} (first : action.Ends store)
    (second : (next (action.run store).1).Ends (action.run store).2) :
    (action >>= next).Ends store := by
  rw [Ends, run_bind]
  exact Eq.trans second first

theorem ends_note {notice : Notice} (ends : notice ≠ .endless) : (note notice).Ends store :=
  Store.stalls_note ends

/-! ## Mergers that end -/

theorem steadies_mergeSchema (snapshot : Snapshot) (entry : String × TypeRef) :
    Steadies (mergeSchema (fieldsWithin depth) snapshot entry) :=
  fun start => preserves_mergeSchema (fun notice => steadies_note notice start)
    (fun id => steadies_fieldsWithin depth id start) snapshot entry

/-- The induction is on the references still to be merged. -/
theorem ends_foldlM {entries : List (String × TypeRef)} (steady : start.Steady store)
    (each : ∀ moment child, start.Steady moment →
      (∃ entry ∈ entries, moment.resolve entry.2 = some child) →
      (fieldsWithin depth child).Ends moment) (snapshot : Snapshot) :
    (entries.foldlM (mergeSchema (fieldsWithin depth)) snapshot).Ends store := by
  induction entries generalizing store snapshot with
  | nil => rfl
  | cons entry rest induction =>
      have first : (mergeSchema (fieldsWithin depth) snapshot entry).Ends store := by
        rw [Ends, mergeSchema, run_bind, run_resolve]
        cases resolved : store.resolve entry.2 with
        | none => exact Store.stalls_note (by simp)
        | some child => exact each store child steady ⟨entry, List.mem_cons_self, resolved⟩
      rw [List.foldlM_cons]
      refine first.bind (induction (steadies_mergeSchema _ _ start store steady) ?_ _)
      rintro moment child further ⟨other, member, resolved⟩
      exact each moment child further ⟨other, List.mem_cons_of_mem _ member, resolved⟩

theorem ends_merge (each : ∀ moment child, store.Steady moment →
      (∃ reference ∈ composite.references.values, moment.resolve reference = some child) →
      (fieldsWithin depth child).Ends moment) (id : TypeId) :
    (merge (fieldsWithin depth) id composite).Ends store := by
  refine Ends.bind (ends_foldlM (.refl store) (fun moment child steady => ?_) _) ?_
  · rintro ⟨entry, member, resolved⟩
    exact each moment child steady ⟨entry.2, List.mem_map_of_mem member, resolved⟩
  · refine Ends.bind (ends_note (by simp)) ?_
    exact Store.stalls_setKind id _

theorem fieldsWithin_settled (settled : ¬store.Outdated id) :
    ((fieldsWithin depth id).run store).2 = store := by
  rcases run_fieldsWithin depth id store with ⟨_, _, run⟩ | ⟨_, _, _, run⟩ |
    ⟨composite, _, found, outdated, _, _⟩ | ⟨composite, found, outdated, _, _⟩ | run
  case inr.inr.inl | inr.inr.inr.inl => exact absurd ⟨composite, found, outdated⟩ settled
  all_goals rw [run]

theorem ends_fieldsWithin_settled (settled : ¬store.Outdated id) :
    (fieldsWithin depth id).Ends store :=
  congrArg Store.stalls (fieldsWithin_settled settled)

theorem ends_fieldsWithin (free : ¬start.Circular root) {passed : List TypeId}
    (steady : start.Steady store) (passage : Passage start.Awaits root id passed)
    (enough : start.types.size ≤ passed.length + depth) : (fieldsWithin depth id).Ends store := by
  induction depth generalizing id passed store with
  | zero =>
      refine ends_fieldsWithin_settled fun outdated => ?_
      have few : passed.length < start.types.size :=
        passage.length_lt (steady.outdated outdated).position_lt fun awaits =>
          awaits.outdated.position_lt
      exact absurd enough (Nat.not_le.mpr few)
  | succ depth induction =>
      by_cases outdated : store.Outdated id
      · rcases outdated with ⟨composite, found, notNow⟩
        rw [Ends, run_fieldsWithin_succ found notNow]
        refine ends_merge (fun moment child further => ?_) id
        rintro ⟨reference, member, resolved⟩
        by_cases childOutdated : moment.Outdated child
        · have awaits : start.Awaits id child := steady.awaits
            ⟨composite, found, notNow, ⟨reference, member, further.resolve resolved⟩,
              further.outdated childOutdated⟩
          have next : Passage start.Awaits root child (id :: passed) :=
            passage.step (fun inner reached turns => free ⟨inner, reached, turns⟩) awaits
          refine induction (steady.trans further) next ?_
          rw [List.length_cons]
          omega
        · exact ends_fieldsWithin_settled childOutdated
      · exact ends_fieldsWithin_settled outdated

theorem ends_snapshotOf (free : ¬store.Circular id) : (snapshotOf id).Ends store := by
  cases found : store.compositeAt? id with
  | none =>
      have absent : (store.type? id).bind DocumentType.composite? = none := found
      simp only [Ends, snapshotOf, run_bind, run_type?, absent]
      rfl
  | some composite =>
      rw [Ends, run_snapshotOf found]
      split
      · rfl
      next outdated =>
        refine ends_merge (fun moment child steady => ?_) id
        rintro ⟨reference, member, resolved⟩
        by_cases childOutdated : moment.Outdated child
        · have awaits : store.Awaits id child := ⟨composite, found, eq_false_of_ne_true outdated,
            ⟨reference, member, steady.resolve resolved⟩, steady.outdated childOutdated⟩
          have passage : Passage store.Awaits id child [id] := (Passage.start store.Awaits id).step
            (fun inner reached turns => free ⟨inner, reached, turns⟩) awaits
          exact ends_fieldsWithin free steady passage (Nat.le_add_left _ _)
        · exact ends_fieldsWithin_settled childOutdated

/-! ## Mergers that never end -/

/-- None of the composites has been merged yet, or something was found that never ends. -/
structure Caught (start : Store) (types : TypeId → Prop) (store : Store) : Prop where
  steady : start.Steady store
  stalls_le : start.stalls ≤ store.stalls
  waiting : start.stalls < store.stalls ∨ ∀ id, types id → store.Outdated id

variable {types : TypeId → Prop}

theorem Caught.noted (caught : Caught start types store) (notice : Notice) :
    Caught start types (store.note notice) where
  steady := caught.steady.trans (.noted store notice)
  stalls_le := Nat.le_trans caught.stalls_le (Store.Observed.noted store notice).stalls_le
  waiting := caught.waiting.imp_left fun less =>
    Nat.lt_of_lt_of_le less (Store.Observed.noted store notice).stalls_le

end Action

/-! ## Instances -/

/-- A field that a type shows is filled with an instance of another type. -/
def Store.Fills (store : Store) (id other : TypeId) : Prop :=
  ∃ field, store.Shows id field ∧ store.resolve field.valueType = some other ∧
    store.Structured other

namespace Store

variable {store later : Store} {id other : TypeId} {field : Field}

theorem Shows.structured (shows : store.Shows id field) : store.Structured id := by
  cases shows with
  | declared found => exact .inl (Option.isSome_iff_exists.mpr ⟨_, found⟩)
  | merged found | pending found => exact .inr (Option.isSome_iff_exists.mpr ⟨_, found⟩)

theorem Structured.position_lt (structured : store.Structured id) :
    id.position < store.types.size := by
  rcases structured with isSome | isSome <;>
    rcases Option.isSome_iff_exists.mp isSome with ⟨kind, found⟩
  · rcases type_of_complexAt? found with ⟨type, typeFound, -⟩
    exact Store.position_lt typeFound
  · rcases type_of_compositeAt? found with ⟨type, typeFound, -⟩
    exact Store.position_lt typeFound

theorem SameDeclared.structured (same : store.SameDeclared later)
    (structured : store.Structured id) : later.Structured id := by
  rcases structured with isSome | isSome <;>
    rcases Option.isSome_iff_exists.mp isSome with ⟨kind, found⟩
  · rcases same.complexAt? found with ⟨lookups, still⟩
    exact .inl (Option.isSome_iff_exists.mpr ⟨_, still⟩)
  · rcases same.compositeAt? found with ⟨merged, still⟩
    exact .inr (Option.isSome_iff_exists.mpr ⟨_, still⟩)

theorem stalls_rememberAll (store : Store) (trail : List TypeId) (primitive : TypeId) :
    (store.rememberAll trail primitive).stalls = store.stalls := by
  induction trail with
  | nil => rfl
  | cons first trail induction =>
      rw [← induction]
      change ((store.rememberAll trail primitive).remember first primitive).stalls = _
      unfold remember
      split
      · exact stalls_setKind ..
      · rfl

end Store

namespace Action

variable {start store : Store} {root id : TypeId} {depth : Nat}
  {fill : TypeId → Action Value}

theorem keptByConsulting_narrows (start : Store) : KeptByConsulting start.Narrows where
  note notice store narrows := narrows.trans (.noted store notice)
  lookUp id name store narrows := by
    cases complexFound : store.complexAt? id with
    | some complex =>
        rw [run_lookUp_complex complexFound]
        exact narrows.trans (.looked complexFound name)
    | none =>
        cases found : store.compositeAt? id with
        | some composite =>
            rw [run_lookUp_composite found]
            exact narrows.trans (narrows_snapshotOf id store).1
        | none =>
            rw [run_lookUp_plain complexFound found]
            exact narrows
  snapshotOf id store narrows := narrows.trans (narrows_snapshotOf id store).1
  primitiveOf id store narrows := by
    rcases run_primitiveOf id store with ⟨trail, primitive, finds, run⟩ | ⟨run, -⟩ <;> rw [run]
    · exact narrows.trans (.of_compositeAt? (.recalled finds)
        (store.compositeAt?_rememberAll trail primitive))
    · exact narrows

theorem ends_primitiveOf (id : TypeId) (store : Store) : (primitiveOf id).Ends store := by
  rcases run_primitiveOf id store with ⟨trail, primitive, -, run⟩ | ⟨run, -⟩ <;> rw [Ends, run]
  exact store.stalls_rememberAll trail primitive

theorem ends_defaultOrNull (field : Field) (store : Store) :
    (defaultOrNull field).Ends store := by
  have keeps (id : TypeId) : Preserves (fun later => later.stalls = store.stalls)
      (primitiveOf id) := fun middle same => (ends_primitiveOf id middle).trans same
  refine Ends.bind (preserves_defaultOf keeps field store rfl) ?_
  split
  · rfl
  · exact Store.stalls_note (by simp)

theorem ends_instantiateField {field : Field}
    (each : ∀ child, store.resolve field.valueType = some child → store.Structured child →
      (fill child).Ends store) : (instantiateField fill field).Ends store := by
  cases resolved : store.resolve field.valueType with
  | none =>
      rw [Ends, instantiateField, run_bind, run_resolve, resolved]
      exact ends_defaultOrNull field store
  | some child =>
      rcases run_instantiateField resolved with ⟨_, _, run⟩ | ⟨structured, run⟩ | ⟨_, run⟩ <;>
        rw [Ends, run]
      · exact each child resolved structured
      · exact ends_defaultOrNull field store

theorem ends_instantiateFields {fields : List Field}
    (keeps : ∀ child, Preserves start.Narrows (fill child))
    (each : ∀ moment, start.Narrows moment → ∀ field ∈ fields, ∀ child,
      moment.resolve field.valueType = some child → moment.Structured child →
      (fill child).Ends moment)
    (narrows : start.Narrows store) : (instantiateFields fill fields).Ends store := by
  refine Ends.bind ?_ rfl
  induction fields generalizing store with
  | nil => rfl
  | cons field rest induction =>
      have first := ends_instantiateField (each store narrows field List.mem_cons_self)
      have next := (keptByConsulting_narrows start).instantiateField keeps field store narrows
      rw [List.mapM_cons]
      refine Ends.bind (first.bind rfl) (Ends.bind (induction ?_ next) rfl)
      exact fun moment further other member =>
        each moment further other (List.mem_cons_of_mem _ member)

theorem ends_instantiateWithin
    (noPart : ∀ inner, ReflTransGen start.Fills root inner → ¬TransGen start.Fills inner inner)
    (noWait : ∀ inner, ReflTransGen start.Fills root inner → ¬start.Circular inner)
    {passed : List TypeId} (narrows : start.Narrows store) (structured : store.Structured id)
    (passage : Passage start.Fills root id passed)
    (enough : start.types.size ≤ passed.length + depth) :
    (instantiateWithin depth id).Ends store := by
  induction depth generalizing id passed store with
  | zero =>
      have early : start.Structured id := narrows.steady.sameDeclared.symm.structured structured
      have few : passed.length < start.types.size := by
        refine passage.length_lt early.position_lt fun fills => ?_
        rcases fills with ⟨_, shows, _⟩
        exact shows.structured.position_lt
      exact absurd enough (Nat.not_le.mpr few)
  | succ depth induction =>
      have keeps := (keptByConsulting_narrows start).instantiateWithin depth
      have nested {fields : List Field} {middle : Store} (middleNarrows : start.Narrows middle)
          (shown : ∀ field ∈ fields, start.Shows id field) :
          (instantiateFields (instantiateWithin depth) fields).Ends middle := by
        refine ends_instantiateFields keeps ?_ middleNarrows
        intro moment further field member child resolved childStructured
        have fills : start.Fills id child := ⟨field, shown field member,
          further.steady.resolve resolved,
          further.steady.sameDeclared.symm.structured childStructured⟩
        refine induction further childStructured (passage.step noPart fills) ?_
        rw [List.length_cons]
        omega
      rcases structured with isSome | isSome
      · rcases Option.isSome_iff_exists.mp isSome with ⟨complex, found⟩
        rcases Store.type_of_complexAt? found with ⟨type, typeFound, kind⟩
        rw [Ends, run_instantiateWithin_complex typeFound kind]
        split
        · rfl
        · exact nested narrows fun field member => narrows.shows (.declared found member)
      · rcases Option.isSome_iff_exists.mp isSome with ⟨composite, found⟩
        rcases narrows_snapshotOf id store with ⟨further, shown⟩
        have ends : (snapshotOf id).Ends store := ends_snapshotOf fun circular =>
          noWait id passage.reached (narrows.steady.circular circular)
        rw [Ends, run_instantiateWithin_composite found]
        exact (nested (narrows.trans further) fun field member =>
          narrows.shows (shown field member)).trans ends

/-- A type whose instance contains no type within itself, and no composite that waits for
itself, has an instance. -/
theorem ends_instantiate (structured : store.Structured id)
    (noPart : ∀ inner, ReflTransGen store.Fills id inner → ¬TransGen store.Fills inner inner)
    (noWait : ∀ inner, ReflTransGen store.Fills id inner → ¬store.Circular inner) :
    (instantiate id).Ends store := by
  change (instantiateWithin (store.types.size + 1) id).Ends store
  refine ends_instantiateWithin noPart noWait (.refl store) structured (.start store.Fills id) ?_
  rw [List.length_nil]
  omega

end Action
end DocumentTypes
