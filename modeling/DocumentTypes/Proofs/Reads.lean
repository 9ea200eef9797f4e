import DocumentTypes.Proofs.Consulting
import DocumentTypes.Proofs.PrimitiveMemos

/-! # Reads

What a user asks of a registry and of its types without changing what has been laid down.
Paths from the registry and lists of fields are among the reads; all else is consulting. -/

namespace DocumentTypes

/-- What is kept by all that reads do to a store. -/
structure KeptByReads (Invariant : Store → Prop) : Prop extends KeptByConsulting Invariant where
  fieldsOf : ∀ id, Action.Preserves Invariant (Action.fieldsOf id)
  topLevelField : ∀ name, Action.Preserves Invariant (Action.topLevelField name)

theorem KeptByReads.registeredField {Invariant : Store → Prop} (kept : KeptByReads Invariant)
    (path : String) : Action.Preserves Invariant (Action.registeredField path) :=
  Action.preserves_registeredField kept.lookUp kept.topLevelField path

inductive Read
  | ask (query : Query)
  | registeredField (path : String)
  | fieldAt (id : TypeId) (path : String)
  | lookUp (id : TypeId) (name : String)
  | fieldsOf (id : TypeId)
  | snapshotOf (id : TypeId)
  | defaultOf (field : Field)
  | instantiate (id : TypeId)

/-- The store after a read, whether it succeeds or fails. -/
def Read.perform (read : Read) (store : Store) : Store :=
  match read with
  | ask query => query.perform store
  | registeredField path => ((Action.registeredField path).run store).2
  | fieldAt id path => ((Action.fieldAt id path).run store).2
  | lookUp id name => ((Action.lookUp id name).run store).2
  | fieldsOf id => ((Action.fieldsOf id).run store).2
  | snapshotOf id => ((Action.snapshotOf id).run store).2
  | defaultOf field => ((Attempt.defaultOf field).run.run store).2
  | instantiate id => ((Action.instantiate id).run store).2

def Store.afterReads (store : Store) (reads : List Read) : Store :=
  reads.foldl (fun store read => read.perform store) store

namespace KeptByReads

variable {Invariant : Store → Prop} {store : Store}

theorem perform (kept : KeptByReads Invariant) (read : Read) (holds : Invariant store) :
    Invariant (read.perform store) := by
  cases read with
  | ask query =>
      cases query with
      | primitiveOf id => exact kept.primitiveOf id store holds
      | decode id text => exact kept.decode id text store holds
      | encode id value => exact kept.encode value id store holds
      | convert id value => exact kept.convert value id store holds
      | validate => exact holds
  | registeredField path => exact kept.registeredField path store holds
  | fieldAt id path => exact kept.fieldAt id path store holds
  | lookUp id name => exact kept.lookUp id name store holds
  | fieldsOf id => exact kept.fieldsOf id store holds
  | snapshotOf id => exact kept.snapshotOf id store holds
  | defaultOf field => exact kept.defaultOf field store holds
  | instantiate id => exact kept.instantiate id store holds

theorem afterReads (kept : KeptByReads Invariant) (reads : List Read) (holds : Invariant store) :
    Invariant (store.afterReads reads) := by
  induction reads generalizing store with
  | nil => exact holds
  | cons read rest induction => exact induction (kept.perform read holds)

end KeptByReads
end DocumentTypes
