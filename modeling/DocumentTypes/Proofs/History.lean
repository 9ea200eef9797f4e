import DocumentTypes.Proofs.Change

/-! # Histories

The stores that users can come to, operation by operation, from a store with nothing
but the primitives. -/

namespace DocumentTypes

inductive Operation
  | build (blueprint : Blueprint)
  | declareField (id : TypeId) (declaration : FieldDeclaration)
  | registerType (id : TypeId)
  | registerSchema (id : TypeId)
  | unregisterSchema (schema : String)
  | registerFacet (name : String) (schemas : List String)
  | load (document : SchemaDocument)
  | loadText (text : String)
  | loadFile (content : Option (List UInt8))
  | addSchema (id : TypeId) (reference : TypeRef)
  | invalidate (id : TypeId)
  | registeredField (path : String)
  | fieldAt (id : TypeId) (path : String)
  | lookUp (id : TypeId) (name : String)
  | fieldsOf (id : TypeId)
  | snapshotOf (id : TypeId)
  | hold (holdings : Holdings)
  | dropRegistry

namespace Operation

/-- The store after an operation, whether it succeeds or fails. -/
def perform (operation : Operation) (store : Store) : Store :=
  match operation with
  | build blueprint => ((Attempt.build blueprint).run.run store).2
  | declareField id declaration => ((Action.declareField id declaration).run.run store).2
  | registerType id => ((Action.registerType id).run store).2
  | registerSchema id => ((Attempt.registerSchema id).run.run store).2
  | unregisterSchema schema => ((Action.unregisterSchema schema).run store).2
  | registerFacet name schemas => ((Action.registerFacet name schemas).run store).2
  | load document => ((Attempt.load document).run.run store).2
  | loadText text => ((Attempt.loadText text).run.run store).2
  | loadFile content => ((Attempt.loadFile content).run.run store).2
  | addSchema id reference => ((Action.addSchema id reference).run store).2
  | invalidate id => ((Action.invalidate id).run store).2
  | registeredField path => ((Action.registeredField path).run store).2
  | fieldAt id path => ((Action.fieldAt id path).run store).2
  | lookUp id name => ((Action.lookUp id name).run store).2
  | fieldsOf id => ((Action.fieldsOf id).run store).2
  | snapshotOf id => ((Action.snapshotOf id).run store).2
  | hold holdings => { store with holdings }
  | dropRegistry => (Action.dropRegistry.run store).2

/-- No field is declared on a registered schema, and what is added to a facet are
schemas of the registry. -/
def Permitted (store : Store) : Operation → Prop
  | declareField id _ => id ∉ store.registry.schemas.values
  | addSchema id reference => id ∈ store.registry.facets.values →
      ∃ schema, reference = .schema store.registryId schema
  | _ => True

theorem changed_perform {store : Store} {operation : Operation}
    (permitted : operation.Permitted store) : store.Changed (operation.perform store) := by
  cases operation with
  | build blueprint => exact Action.changes_attemptBuild blueprint store
  | declareField id declaration => exact Action.changed_declareField permitted declaration
  | registerType id => exact Action.changes_registerType id store
  | registerSchema id => exact Action.changes_registerSchema id store
  | unregisterSchema schema => exact Action.changes_unregisterSchema schema store
  | registerFacet name schemas => exact Action.changes_registerFacet name schemas store
  | load document => exact Action.changes_load document store
  | loadText text => exact Action.changes_loadText text store
  | loadFile content => exact Action.changes_loadFile content store
  | addSchema id reference => exact Action.changed_addSchema permitted
  | invalidate id => exact Action.changes_invalidate id store
  | registeredField path => exact .observed (Action.observes_registeredField path store)
  | fieldAt id path => exact .observed (Action.observes_fieldAt id path store)
  | lookUp id name => exact .observed (Action.observes_lookUp id name store)
  | fieldsOf id => exact .observed (Action.observes_fieldsOf id store)
  | snapshotOf id => exact .observed (Action.observes_snapshotOf id store)
  | hold holdings => exact .held store holdings
  | dropRegistry => exact Action.changes_dropRegistry store

end Operation

namespace Store

/-- The stores that permitted operations lead to. -/
inductive Reachable : Store → Prop
  | initial : Reachable .initial
  | performed {store : Store} {operation : Operation} (reachable : Reachable store)
      (permitted : operation.Permitted store) : Reachable (operation.perform store)

/-- A whole history is a sequence of small changes. -/
theorem Reachable.changed {store : Store} (reachable : Reachable store) :
    Store.blank.Changed store := by
  induction reachable with
  | initial => exact Action.changes_registerPrimitives .blank
  | performed _ permitted induction =>
      exact induction.trans (Operation.changed_perform permitted)

theorem Reachable.typesExist {store : Store} (reachable : store.Reachable) :
    store.TypesExist :=
  TypesExist.changed (fun _ _ found => by cases found) reachable.changed

end Store
end DocumentTypes
