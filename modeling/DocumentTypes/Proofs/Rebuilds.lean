import DocumentTypes.Proofs.Endings
import DocumentTypes.Proofs.Readings
import Mathlib.Data.List.DropRight

/-! # Rebuilt composites

A composite counts the requests to merge, and its snapshot carries the number of the request
that it answers. So a read merges just when there has been a request since the last read, and
what it shows stays until then. -/

namespace DocumentTypes

/-! ## Visits -/

/-- What happens to a composite, or elsewhere with as many requests to merge. -/
inductive Visit
  | addSchema (reference : TypeRef)
  | invalidate
  | read (reading : Reading)
  | elsewhere (event : Event) (requests : Nat)

namespace Visit

def perform (id : TypeId) (visit : Visit) (store : Store) : Store :=
  match visit with
  | addSchema reference => ((Action.addSchema id reference).run store).2
  | invalidate => ((Action.invalidate id).run store).2
  | read reading => ((reading.ask id).run store).2
  | elsewhere event _ => event.perform store

/-- What happens elsewhere does no more to the composite than to ask. -/
def OnlyAsks (id : TypeId) (store : Store) : Visit → Prop
  | elsewhere event requests => (event.perform store).compositeAt? id =
      (store.compositeAt? id).map fun composite =>
        { composite with requested := composite.requested + requests }
  | addSchema _ | invalidate | read _ => True

def isRead : Visit → Bool
  | read _ => true
  | addSchema _ | invalidate | elsewhere .. => false

/-- Whether a composite is to be merged at the next read. A null reference asks nothing. -/
def asks : Visit → Bool
  | addSchema reference => !reference.isNull
  | invalidate => true
  | read _ => false
  | elsewhere _ requests => requests != 0

/-- A reference with the name under which it is registered. -/
def named? : Visit → Option (String × TypeRef)
  | addSchema reference => reference.target?.map fun target => (target.name, reference)
  | invalidate | read _ | elsewhere .. => none

/-- The references of a composite: in the order in which their names were first registered,
and for each name the latest one. -/
def registered (visits : List Visit) : List (String × TypeRef) :=
  let given := visits.filterMap named?
  (given.map Prod.fst).eraseDups.filterMap fun name => (Entries.last? given name).map (name, ·)

/-- A read has to merge if it is the first one, or if it was asked for since the last. -/
def due (visits : List Visit) : Bool :=
  !visits.any isRead || (visits.rtakeWhile fun visit => !visit.isRead).any asks

def rebuildsAfter (earlier : List Visit) : List Visit → Nat
  | [] => 0
  | visit :: rest =>
    (if visit.isRead && due earlier then 1 else 0) + rebuildsAfter (earlier ++ [visit]) rest

def rebuilds (visits : List Visit) : Nat := rebuildsAfter [] visits

variable {visit : Visit} {visits : List Visit}

theorem due_concat (visits : List Visit) (visit : Visit) :
    due (visits ++ [visit]) = (!visit.isRead && (due visits || visit.asks)) := by
  unfold due
  cases read : visit.isRead with
  | true => simp [read]
  | false => simp [read, Bool.or_assoc]

theorem rebuilds_concat (visits : List Visit) (visit : Visit) :
    rebuilds (visits ++ [visit]) =
      rebuilds visits + if visit.isRead && due visits then 1 else 0 := by
  have general (earlier : List Visit) : rebuildsAfter earlier (visits ++ [visit]) =
      rebuildsAfter earlier visits +
        if visit.isRead && due (earlier ++ visits) then 1 else 0 := by
    induction visits generalizing earlier with
    | nil => simp [rebuildsAfter]
    | cons first rest induction =>
        rw [List.cons_append, rebuildsAfter, rebuildsAfter, induction, List.append_assoc,
          List.singleton_append, Nat.add_assoc]
  exact general []

theorem asks_addSchema (reference : TypeRef) :
    (addSchema reference).asks = reference.target?.isSome := by
  cases reference <;> rfl

theorem named?_of_quiet (quiet : visit.asks = false) : visit.named? = none := by
  cases visit with
  | addSchema reference =>
      rw [asks_addSchema, Option.isSome_eq_false_iff, Option.isNone_iff_eq_none] at quiet
      rw [named?, quiet, Option.map_none]
  | invalidate | read | elsewhere => rfl

theorem entries_putAll (visits : List Visit) :
    (Table.empty.putAll (visits.filterMap named?)).entries = registered visits := by
  rw [Table.entries_eq_filterMap_keys, Table.keys_empty_putAll]
  simp only [Table.get?_putAll, Table.get?_empty, Option.or_none]
  rfl

theorem map_fst_registered (visits : List Visit) : (registered visits).map Prod.fst =
    (visits.filterMap fun visit => visit.named?.map Prod.fst).eraseDups := by
  rw [← entries_putAll, ← List.map_filterMap]
  exact Table.keys_empty_putAll _

end Visit

/-! ## What a composite is after some visits -/

/-- A composite is as the visits so far have made it. -/
structure CompositeType.Follows (composite : CompositeType) (visits : List Visit) : Prop where
  references : composite.references = Table.empty.putAll (visits.filterMap Visit.named?)
  current : composite.isCurrent = !Visit.due visits
  bounded : composite.merged.revision ≤ composite.requested
  generation : composite.merged.generation = Visit.rebuilds visits

namespace CompositeType.Follows

variable {composite : CompositeType} {visits : List Visit} {visit : Visit}

theorem asked {references : Table String TypeRef} {requested : Nat}
    (follows : composite.Follows visits) (asks : visit.asks = true)
    (notRead : visit.isRead = false) (more : composite.requested < requested)
    (equal : references = composite.references.putAll visit.named?.toList) :
    ({ composite with references, requested } : CompositeType).Follows (visits ++ [visit]) where
  references := by
    rw [equal, follows.references, ← Table.putAll_append, List.filterMap_append]
    congr 2
  current := by
    have outdated : ¬requested ≤ composite.merged.revision :=
      Nat.not_le.mpr (Nat.lt_of_le_of_lt follows.bounded more)
    rw [isCurrent, decide_eq_false outdated, Visit.due_concat, asks, notRead, Bool.or_true]
    rfl
  bounded := Nat.le_trans follows.bounded (Nat.le_of_lt more)
  generation := by
    rw [Visit.rebuilds_concat, notRead]
    exact follows.generation

theorem unasked (follows : composite.Follows visits) (quiet : visit.asks = false)
    (notRead : visit.isRead = false) : composite.Follows (visits ++ [visit]) where
  references := by
    rw [List.filterMap_append, follows.references]
    simp [Visit.named?_of_quiet quiet]
  current := by
    rw [Visit.due_concat, quiet, notRead, Bool.or_false, follows.current]
    rfl
  bounded := follows.bounded
  generation := by
    rw [Visit.rebuilds_concat, notRead]
    exact follows.generation

theorem addSchema (follows : composite.Follows visits) (reference : TypeRef) :
    (reference.target?.elim composite fun target =>
      composite.addSchema target.name reference).Follows (visits ++ [.addSchema reference]) := by
  cases aim : reference.target? with
  | none =>
      have quiet : (Visit.addSchema reference).asks = false := by
        rw [Visit.asks_addSchema, aim]
        rfl
      exact follows.unasked quiet rfl
  | some target =>
      have asks : (Visit.addSchema reference).asks = true := by
        rw [Visit.asks_addSchema, aim]
        rfl
      have named : (Visit.addSchema reference).named? = some (target.name, reference) := by
        rw [Visit.named?, aim, Option.map_some]
      exact follows.asked asks rfl (Nat.lt_succ_self _) (by rw [named]; rfl)

theorem addAll (references : List TypeRef) :
    (CompositeType.empty.addAll references).Follows (references.map .addSchema) := by
  induction references using List.reverseRecOn with
  | nil => exact ⟨rfl, rfl, Nat.zero_le _, rfl⟩
  | append_singleton references reference induction =>
      rw [CompositeType.addAll, List.foldl_concat, List.map_append]
      exact induction.addSchema reference

theorem read {shown : Snapshot} (follows : composite.Follows visits) (reading : Reading)
    (kept : composite.isCurrent = true → shown = composite.merged)
    (merged : composite.isCurrent = false → shown.revision = composite.requested ∧
      shown.generation = composite.merged.generation + 1) :
    ({ composite with merged := shown } : CompositeType).Follows (visits ++ [.read reading]) := by
  have quiet : ([Visit.read reading].filterMap Visit.named?) = [] := rfl
  have references : composite.references =
      Table.empty.putAll ((visits ++ [Visit.read reading]).filterMap Visit.named?) := by
    rw [List.filterMap_append, quiet, List.append_nil]
    exact follows.references
  have due := follows.current
  cases now : composite.isCurrent with
  | true =>
      rw [now] at due
      have notDue : Visit.due visits = false := by simpa using due.symm
      rw [kept now]
      refine ⟨references, ?_, follows.bounded, ?_⟩
      · rw [Visit.due_concat]
        exact now
      · rw [Visit.rebuilds_concat, notDue]
        exact follows.generation
  | false =>
      rw [now] at due
      have isDue : Visit.due visits = true := by simpa using due.symm
      rcases merged now with ⟨revision, generation⟩
      refine ⟨references, ?_, Nat.le_of_eq revision, ?_⟩
      · rw [Visit.due_concat, isCurrent, revision]
        simp [Visit.isRead]
      · rw [Visit.rebuilds_concat, isDue, ← follows.generation]
        exact generation

end CompositeType.Follows

namespace Store

def visited (store : Store) (id : TypeId) (visits : List Visit) : Store :=
  visits.foldl (fun store visit => visit.perform id store) store

variable {store after : Store} {id : TypeId} {visits : List Visit}

end Store

namespace Visit

/-- All that happens elsewhere does no more to the composite than to ask. -/
def AllOnlyAsk (id : TypeId) : List Visit → Store → Prop
  | [], _ => True
  | visit :: rest, store =>
    visit.OnlyAsks id store ∧ AllOnlyAsk id rest (visit.perform id store)

variable {store : Store} {id : TypeId} {composite : CompositeType} {visits history : List Visit}

theorem allOnlyAsk_append {later : List Visit} : AllOnlyAsk id (visits ++ later) store ↔
    AllOnlyAsk id visits store ∧ AllOnlyAsk id later (store.visited id visits) := by
  induction visits generalizing store with
  | nil => exact (iff_of_eq (true_and _)).symm
  | cons first rest induction =>
      rw [List.cons_append, AllOnlyAsk, induction, AllOnlyAsk, and_assoc]
      rfl

theorem allOnlyAsk_concat {visit : Visit} : AllOnlyAsk id (visits ++ [visit]) store ↔
    AllOnlyAsk id visits store ∧ visit.OnlyAsks id (store.visited id visits) := by
  rw [allOnlyAsk_append]
  exact and_congr_right fun _ => iff_of_eq (and_true _)

theorem onlyAsks_registerType (type : TypeId) :
    (elsewhere (.operate (.registerType type)) 0).OnlyAsks id store := by
  have same : (store.compositeAt? id).map (fun composite =>
      { composite with requested := composite.requested + 0 }) = store.compositeAt? id := by
    cases store.compositeAt? id <;> rfl
  refine Eq.trans ?_ same.symm
  change ((Action.registerType type).run store).2.compositeAt? id = _
  cases found : store.type? type with
  | none =>
      rw [Action.registerType, Action.run_bind, Action.run_type?, found]
      rfl
  | some _ =>
      rcases Action.run_registerType found with ⟨notices, run⟩
      rw [run]
      rfl

theorem follows_perform (visit : Visit) (found : store.compositeAt? id = some composite)
    (follows : composite.Follows history) (only : visit.OnlyAsks id store) :
    ∃ next, (visit.perform id store).compositeAt? id = some next ∧
      next.Follows (history ++ [visit]) := by
  have replaced (next : CompositeType) :
      (store.setKind id (.composite next)).compositeAt? id = some next := by
    rw [Store.compositeAt?_setKind_composite found, if_pos rfl]
  cases visit with
  | addSchema reference =>
      rw [perform, Action.run_addSchema found]
      refine ⟨_, ?_, follows.addSchema reference⟩
      cases reference.target? with
      | none => exact found
      | some target => exact replaced _
  | invalidate =>
      have bound : (store.type? id).bind DocumentType.composite? = some composite := found
      have run : ((Action.invalidate id).run store).2 =
          store.setKind id (.composite composite.invalidate) := by
        simp only [Action.invalidate, Action.run_bind, Action.run_type?, bound]
        rfl
      rw [perform, run]
      exact ⟨_, replaced _, follows.asked rfl rfl (Nat.lt_succ_self _) rfl⟩
  | read reading =>
      rcases reading.compositeAt?_ask found with ⟨shown, shownFound, rfl, -⟩
      refine ⟨_, shownFound, follows.read reading (fun now => ?_) fun outdated => ?_⟩
      · rw [Action.run_snapshotOf found, if_pos now]
      · rw [Action.run_snapshotOf found, if_neg (by simp [outdated])]
        exact (Action.compositeAt?_merge found _).2
  | elsewhere event requests =>
      have next := only.trans (congrArg _ found)
      refine ⟨_, next, ?_⟩
      cases requests with
      | zero => exact follows.unasked rfl rfl
      | succ requests =>
          exact follows.asked rfl rfl (Nat.lt_add_of_pos_right (Nat.succ_pos _)) rfl

theorem follows_visited (found : store.compositeAt? id = some composite)
    (follows : composite.Follows history) (only : AllOnlyAsk id visits store) :
    ∃ next, (store.visited id visits).compositeAt? id = some next ∧
      next.Follows (history ++ visits) := by
  induction visits using List.reverseRecOn with
  | nil => exact ⟨composite, found, by rwa [List.append_nil]⟩
  | append_singleton visits visit induction =>
      rcases allOnlyAsk_concat.mp only with ⟨early, last⟩
      rcases induction early with ⟨middle, middleFound, middleFollows⟩
      rcases follows_perform visit middleFound middleFollows last with
        ⟨next, nextFound, nextFollows⟩
      refine ⟨next, ?_, List.append_assoc history visits [visit] ▸ nextFollows⟩
      rw [Store.visited, List.foldl_concat]
      exact nextFound

end Visit

/-! ## What a merger finds -/

namespace Store

end Store

theorem Store.compositeAt?_push_built {blueprint : Blueprint} {schemas : List TypeRef}
    (body : blueprint.body = .composite schemas) (store : Store) :
    (store.push (blueprint.built store)).compositeAt? store.nextId =
      some (CompositeType.empty.addAll schemas) := by
  rw [compositeAt?_push, if_pos rfl]
  simp only [DocumentType.composite?, Blueprint.built, Blueprint.builtKind, body]

theorem Action.compositeAt?_registerFacet (name : String) (schemas : List String)
    (store : Store) :
    ((registerFacet name schemas).run store).2.compositeAt? store.nextId =
      some (CompositeType.empty.addAll (schemas.map (.schema store.registryId))) := by
  rcases run_registerFacet name schemas store with ⟨notices, run⟩
  rw [run]
  exact Store.compositeAt?_push_built rfl store

/-- The names of a facet are those that it is registered with and then those that are added,
each where it first came. -/
theorem Action.keys_registerFacet (name : String) (schemas : List String) (visits : List Visit)
    (store : Store)
    (only : Visit.AllOnlyAsk store.nextId visits ((registerFacet name schemas).run store).2) :
    ∃ composite, (((registerFacet name schemas).run store).2.visited store.nextId
        visits).compositeAt? store.nextId = some composite ∧
      composite.references.keys =
        (schemas ++ visits.filterMap fun visit => visit.named?.map Prod.fst).eraseDups := by
  let history := (schemas.map (TypeRef.schema store.registryId)).map Visit.addSchema
  have names : (history.filterMap fun visit => visit.named?.map Prod.fst) = schemas := by
    simp only [history, List.filterMap_map]
    exact List.filterMap_some
  rcases Visit.follows_visited (compositeAt?_registerFacet name schemas store)
    (.addAll (schemas.map (.schema store.registryId))) only with ⟨composite, found, follows⟩
  refine ⟨composite, found, ?_⟩
  rw [Table.keys, follows.references, Visit.entries_putAll, Visit.map_fst_registered,
    List.filterMap_append, names]

end DocumentTypes
