import DocumentTypes.Proofs.FacetView
import DocumentTypes.Proofs.FieldCache
import DocumentTypes.Proofs.FieldIndexes
import DocumentTypes.Proofs.QualifierOwners
import DocumentTypes.Proofs.Reads
import DocumentTypes.Proofs.Steadiness

/-! # Stores in use

The stores that users come to by permitted operations and by reads in between. What is
remembered in them is right, facets are kept up to date, composites are indexed, and qualifiers
are owned by schemas that declare them. -/

namespace DocumentTypes

namespace Action

theorem keptByReads_consulted (start : Store) : KeptByReads start.Consulted where
  toKeptByConsulting := keptByConsulting_consulted start
  fieldsOf id := (observes_fieldsOf id).consults.preserves start
  topLevelField name := (observes_topLevelField name).consults.preserves start

end Action

theorem Read.consulted_perform (read : Read) (store : Store) :
    store.Consulted (read.perform store) :=
  (Action.keptByReads_consulted store).perform read (.refl store)

namespace Store

variable {before after store : Store} {id primitive : TypeId} {trail : List TypeId}

/-! ## Primitives are found -/

theorem registry_remember (store : Store) (id primitive : TypeId) :
    (store.remember id primitive).registry = store.registry ∧
      (store.remember id primitive).registryId = store.registryId := by
  unfold remember
  split
  · exact ⟨registry_setKind, registryId_setKind⟩
  · exact ⟨rfl, rfl⟩

theorem registry_rememberAll (store : Store) (trail : List TypeId) (primitive : TypeId) :
    (store.rememberAll trail primitive).registry = store.registry ∧
      (store.rememberAll trail primitive).registryId = store.registryId := by
  induction trail with
  | nil => exact ⟨rfl, rfl⟩
  | cons id trail induction =>
      have last := registry_remember (store.rememberAll trail primitive) id primitive
      exact ⟨last.1.trans induction.1, last.2.trans induction.2⟩

theorem CachesRight.consulted (right : before.CachesRight) (consulted : before.Consulted after) :
    after.CachesRight := by
  induction consulted with
  | observed observed => exact right.observed observed
  | @recalled store id primitive trail finds =>
      have registry := (registry_rememberAll store trail primitive).1
      exact right.of_complexAt? (store.complexAt?_rememberAll trail primitive) (by rw [registry])
        (by rw [registry]) (by rw [registry])
  | trans _ _ first second => exact second (first right)

theorem FacetsCurrent.consulted (current : before.FacetsCurrent)
    (consulted : before.Consulted after) : after.FacetsCurrent := by
  induction consulted with
  | observed observed => exact current.observed observed
  | @recalled store id primitive trail finds =>
      rcases registry_rememberAll store trail primitive with ⟨registry, registryId⟩
      refine current.of_complexAt? (fun id complex found _ => ?_) (fun id composite found => ?_)
        registryId (by rw [registry]) (by rw [registry])
      · rw [complexAt?_rememberAll, found]
      · rw [compositeAt?_rememberAll, found]
  | trans _ _ first second => exact second (first current)

theorem OwnersDeclare.consulted (declare : before.OwnersDeclare)
    (consulted : before.Consulted after) : after.OwnersDeclare := by
  have same := consulted.sameDeclared
  have owners : before.registry.qualifiers = after.registry.qualifiers :=
    (congrArg (fun store : Store => store.registry.qualifiers) same.eq :)
  intro qualifier owner owned
  rw [← owners] at owned
  rcases declare qualifier owner owned with ⟨given, declared⟩
  refine ⟨given, (declaredQualifier?_eq_some_iff given).mpr ?_⟩
  rcases (declaredQualifier?_eq_some_iff given).mp declared with ⟨id, complex, registered, found, is⟩
  rcases same.complexAt? found with ⟨lookups, later⟩
  exact ⟨id, _, same.schemas_eq ▸ registered, later, is⟩

/-! ## Histories with reads -/

/-- The stores that permitted operations and reads lead to. -/
inductive Used : Store → Prop
  | initial : Used .initial
  | performed {store : Store} {operation : Operation} (used : Used store)
      (permitted : operation.Permitted store) : Used (operation.perform store)
  | read {store : Store} (used : Used store) (read : Read) :
      Used (read.perform store)

theorem used_following (operations : List Operation)
    (permitted : ∀ operation ∈ operations, ∀ store, operation.Permitted store) :
    (following operations).Used := by
  induction operations using List.reverseRecOn with
  | nil => exact .initial
  | append_singleton rest last induction =>
      rw [following_concat]
      refine .performed (induction fun operation member => ?_) (permitted last (by simp) _)
      exact permitted operation (List.mem_append_left _ member)

namespace Used

theorem afterReads (used : store.Used) (reads : List Read) : (store.afterReads reads).Used := by
  induction reads generalizing store with
  | nil => exact used
  | cons read rest induction => exact induction (used.read read)

theorem keeps {Invariant : Store → Prop} (initial : Invariant .initial)
    (changed : ∀ {before after : Store}, before.Changed after → Invariant before → Invariant after)
    (consulted : ∀ {before after : Store}, before.Consulted after → Invariant before →
      Invariant after) (used : store.Used) : Invariant store := by
  induction used with
  | initial => exact initial
  | performed _ permitted induction => exact changed (Operation.changed_perform permitted) induction
  | read _ read induction => exact consulted (read.consulted_perform _) induction

theorem cachesRight (used : store.Used) : store.CachesRight :=
  used.keeps Reachable.initial.cachesRight (fun changed right => right.changed changed)
    fun consulted right => right.consulted consulted

theorem facetsCurrent (used : store.Used) : store.FacetsCurrent :=
  used.keeps Reachable.initial.facetsCurrent (fun changed current => current.changed changed)
    fun consulted current => current.consulted consulted

theorem indexed (used : store.Used) : store.Indexed := by
  induction used with
  | initial => exact indexed_after []
  | performed _ _ induction => exact induction.perform (.operate _)
  | read _ read induction => exact Action.keptByReads_indexed.perform read induction

theorem ownersDeclare (used : store.Used) : store.OwnersDeclare := by
  induction used with
  | initial => exact ownersDeclare_following []
  | performed _ _ induction =>
      exact (Operation.refiled_perform _ _).keeps OwnersDeclare.filed induction
  | read _ read induction => exact induction.consulted (read.consulted_perform _)

end Used
end Store
end DocumentTypes
