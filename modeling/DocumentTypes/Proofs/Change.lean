import DocumentTypes.Proofs.Observation
import DocumentTypes.Proofs.Planning
import DocumentTypes.Proofs.Registration

/-! # Change

What users do to a store, broken down into small changes. Each operation is shown once
to be a sequence of such changes; what all of them keep is then kept by every run of
operations, loading whole documents included. -/

namespace DocumentTypes

namespace Store

inductive Changed : Store → Store → Prop
  | trans {first second third : Store} (before : Changed first second)
      (after : Changed second third) : Changed first third
  | observed {before after : Store} (observed : Observed before after) : Changed before after
  | reported (store : Store) (notices : List Notice) : Changed store { store with notices }
  | built (store : Store) (blueprint : Blueprint) :
      Changed store (store.push (blueprint.built store))
  /-- A complex type that is no registered schema declares a field. -/
  | declared {store : Store} {id : TypeId} {complex : ComplexType}
      (found : store.complexAt? id = some complex)
      (unregistered : id ∉ store.registry.schemas.values) (name : TypeName)
      (declaration : FieldDeclaration) :
      Changed store (store.setKind id (.complex (complex.declare id name declaration).1))
  | typeRegistered {store : Store} {id : TypeId} (present : (store.type? id).isSome = true)
      (name : TypeName) : Changed store (store.setRegistry { store.registry with
        types := store.registry.types.put name id })
  /-- At most one name means another schema than before, and the facets that mention it
  are asked. -/
  | schemaChanged {store after : Store} (schema : String) (registry : Registry)
      (elsewhere : ∀ name, name ≠ schema →
        registry.schemas.get? name = store.registry.schemas.get? name)
      (complex : ∀ id, registry.schemas.get? schema = some id →
        ∃ complex, store.complexAt? id = some complex)
      (types : store.TypesExist → (store.setRegistry registry).TypesExist)
      (facets_eq : registry.facets = store.registry.facets)
      (forgotten : registry.fieldLookups = .empty)
      (asked : (store.setRegistry registry).Asked schema store.registry.facets.values after) :
      Changed store after
  /-- A composite that names schemas and has yet to merge becomes a facet. -/
  | facetEntered {store : Store} {id : TypeId} {composite : CompositeType}
      (found : store.compositeAt? id = some composite) (named : store.NamesSchemas composite)
      (outdated : composite.merged.revision < composite.requested) (name : String) :
      Changed store (store.setRegistry { store.registry with
        facets := store.registry.facets.put name id })
  /-- A composite refers to one more type. Facets refer to schemas by name. -/
  | schemaAdded {store : Store} {id : TypeId} {composite : CompositeType}
      (found : store.compositeAt? id = some composite) {name : String} {reference : TypeRef}
      (named : id ∈ store.registry.facets.values → reference = .schema store.registryId name) :
      Changed store (store.setKind id (.composite (composite.addSchema name reference)))
  | invalidated {store : Store} {id : TypeId} {composite : CompositeType}
      (found : store.compositeAt? id = some composite) :
      Changed store (store.setKind id (.composite composite.invalidate))
  | held (store : Store) (holdings : Holdings) : Changed store { store with holdings }
  | dropped (store : Store) (registryId : RegistryId) :
      Changed store { store with registry := .empty, registryId }

theorem Changed.refl (store : Store) : Changed store store := .observed (.refl store)

theorem SchemasComplex.schemaChanged {store after : Store} (present : store.SchemasComplex)
    {schema : String} {registry : Registry} {facets : List TypeId}
    (elsewhere : ∀ name, name ≠ schema →
      registry.schemas.get? name = store.registry.schemas.get? name)
    (complex : ∀ id, registry.schemas.get? schema = some id →
      ∃ complex, store.complexAt? id = some complex)
    (asked : (store.setRegistry registry).Asked schema facets after) : after.SchemasComplex := by
  intro name id registered
  rw [asked.registry_eq] at registered
  rw [asked.complexAt?_eq]
  by_cases same : name = schema
  · subst same
    exact complex id registered
  · exact present name id ((elsewhere name same).symm.trans registered)

theorem TypesExist.changed {before after : Store} (exist : before.TypesExist)
    (step : before.Changed after) : after.TypesExist := by
  induction step with
  | trans _ _ first second => exact second (first exist)
  | observed observed => exact exist.observed observed
  | reported | held | facetEntered => exact exist
  | built => exact exist.of_size rfl (by simp [push])
  | declared | schemaAdded | invalidated =>
      exact exist.of_size (by rw [registry_setKind]) (Nat.le_of_eq size_setKind.symm)
  | typeRegistered present => exact exist.put present rfl
  | schemaChanged schema registry _ _ types _ _ asked =>
      exact (types exist).of_size (congrArg Registry.types asked.registry_eq)
        (Nat.le_of_eq asked.size_eq.symm)
  | dropped =>
      intro _ _ found
      cases found

end Store

/-! ## Building and registering -/

namespace Action

open Store (Changed)

def Changes {α : Type} (action : Action α) : Prop := ∀ store, Changed store (action.run store).2

theorem Changes.preserves {α : Type} {action : Action α} (changes : Changes action)
    (origin : Store) : Preserves (Changed origin) action :=
  fun store reached => reached.trans (changes store)

theorem changes_build (blueprint : Blueprint) : Changes (build blueprint) := by
  intro store
  rcases run_build blueprint store with ⟨notices, run⟩
  rw [run]
  exact (Changed.built store blueprint).trans (.reported _ notices)

theorem changes_registerType (id : TypeId) : Changes (registerType id) := by
  intro store
  cases found : store.type? id with
  | none =>
      unfold registerType
      rw [run_bind, run_type?, found]
      exact .refl store
  | some type =>
      rcases run_registerType found with ⟨notices, run⟩
      rw [run]
      exact (Changed.typeRegistered (Option.isSome_of_eq_some found) type.name).trans
        (.reported _ notices)

theorem changed_registerComplex {store : Store} {id : TypeId} {complex : ComplexType}
    (found : store.complexAt? id = some complex) (name : TypeName) (space : Namespace) :
    Changed store ((registerComplex id name space).run store).2 := by
  rcases asked_registerComplex id name space store with ⟨qualifiers, asked⟩
  refine .schemaChanged name.name _ ?_ ?_ ?_ ?_ ?_ asked
  · intro other different
    exact (Table.get?_put _ _ _ _).trans (if_neg (Ne.symm different))
  · intro registered here
    rw [show _ = some id from (Table.get?_put _ _ _ _).trans (if_pos rfl)] at here
    cases here
    exact ⟨complex, found⟩
  · exact fun exist => exist.put (Store.isSome_of_complexAt? found) rfl
  · rfl
  · rfl

theorem changes_unregisterSchema (schema : String) : Changes (unregisterSchema schema) := by
  intro store
  rcases asked_unregisterSchema schema store with unchanged | ⟨name, qualifiers, asked⟩
  · rw [unchanged]
    exact .refl store
  · refine .schemaChanged schema _ ?_ ?_ ?_ ?_ ?_ asked
    · intro other different
      exact (Table.get?_erase _ _ _).trans (if_neg (Ne.symm different))
    · intro registered here
      rw [show _ = none from (Table.get?_erase _ _ _).trans (if_pos rfl)] at here
      cases here
    · intro exist other registered otherFound
      change (store.registry.types.erase name).get? other = some registered at otherFound
      rw [Table.get?_erase] at otherFound
      split at otherFound
      · cases otherFound
      · exact exist other registered otherFound
    · rfl
    · rfl

theorem namesSchemas_addAll (store : Store) (schemas : List String) {composite : CompositeType}
    (named : store.NamesSchemas composite) :
    store.NamesSchemas (composite.addAll (schemas.map (TypeRef.schema store.registryId))) := by
  induction schemas generalizing composite with
  | nil => exact named
  | cons schema rest induction => exact induction (named.addSchema schema)

theorem changes_registerFacet (name : String) (schemas : List String) :
    Changes (registerFacet name schemas) := by
  intro store
  rcases run_registerFacet name schemas store with ⟨notices, run⟩
  rw [run]
  let composite := CompositeType.empty.addAll (schemas.map (TypeRef.schema store.registryId))
  let facet := (Blueprint.facet store.registryId name schemas).built store
  have found : (store.push facet).compositeAt? store.nextId = some composite := by
    rw [Store.compositeAt?_push, if_pos rfl]
    rfl
  have named : (store.push facet).NamesSchemas composite :=
    namesSchemas_addAll (store.push facet) schemas fun _ member => by cases member
  have made := Changed.built store (.facet store.registryId name schemas)
  let entered := (store.push facet).setRegistry { store.registry with
    facets := store.registry.facets.put name store.nextId }
  have enters : (store.push facet).Changed entered :=
    .facetEntered found named (CompositeType.outdated_addAll _) name
  have present : (entered.type? store.nextId).isSome = true := by
    change ((store.push facet).type? store.nextId).isSome = true
    rw [Store.type?_push, if_pos rfl]
    rfl
  exact ((made.trans enters).trans (.typeRegistered present ⟨facetSchema, name⟩)).trans
    (.reported _ notices)

/-! ## Fields and composites -/

theorem changed_declareField {store : Store} {id : TypeId}
    (unregistered : id ∉ store.registry.schemas.values) (declaration : FieldDeclaration) :
    Changed store ((declareField id declaration).run.run store).2 := by
  unfold declareField
  rw [Attempt.run_bind_type?]
  rcases found : store.type? id with _ | ⟨name, base, flags, kind⟩
  · exact .refl store
  · cases kind with
    | complex complex =>
        have complexFound : store.complexAt? id = some complex := by
          rw [Store.complexAt?, found]
          rfl
        dsimp only
        split
        · let late := store.note (.lateField (complex.declare id name declaration).2.name)
          exact (Changed.observed (.noted store _)).trans
            (@Changed.declared late id complex complexFound unregistered name declaration)
        · exact .declared complexFound unregistered name declaration
    | primitive | simple | composite | list => exact .refl store

theorem changed_addSchema {store : Store} {id : TypeId} {reference : TypeRef}
    (named : id ∈ store.registry.facets.values →
      ∃ schema, reference = .schema store.registryId schema) :
    Changed store ((addSchema id reference).run store).2 := by
  cases found : store.compositeAt? id with
  | none =>
      have absent : (store.type? id).bind DocumentType.composite? = none := found
      unfold addSchema
      cases reference.target? with
      | none => exact .observed (.noted store _)
      | some target =>
          simp only [run_bind, run_type?, absent]
          exact .refl store
  | some composite =>
      rw [run_addSchema found]
      cases aim : reference.target? with
      | none => exact .observed (.noted store _)
      | some target =>
          refine .schemaAdded found fun member => ?_
          rcases named member with ⟨schema, rfl⟩
          cases aim
          rfl

theorem changes_invalidate (id : TypeId) : Changes (invalidate id) := by
  intro store
  unfold invalidate
  rw [run_bind, run_type?]
  cases found : (store.type? id).bind DocumentType.composite? with
  | none => exact .refl store
  | some composite => exact .invalidated found

/-! ## Registries -/

theorem changes_registerPrimitives : Changes registerPrimitives := by
  intro store
  unfold registerPrimitives
  refine Preserves.forM _ (fun kind _ => ?_) store (.refl store)
  exact .bind ((changes_build (.primitive kind)).preserves store)
    fun id => (changes_registerType id).preserves store

theorem changes_dropRegistry : Changes dropRegistry := by
  intro store
  unfold dropRegistry
  rw [run_bind, run_modify]
  exact (Changed.dropped store ⟨store.registryId.number + 1⟩).trans (changes_registerPrimitives _)

/-! ## Documents -/

theorem changes_registerSchema (id : TypeId) : Changes (Attempt.registerSchema id).run := by
  intro store
  unfold Attempt.registerSchema
  rw [Attempt.run_bind_type?]
  rcases found : store.type? id with _ | ⟨name, base, flags, kind⟩
  · exact .refl store
  · cases kind with
    | complex complex =>
        have complexFound : store.complexAt? id = some complex := by
          rw [Store.complexAt?, found]
          rfl
        exact changed_registerComplex complexFound name complex.space
    | primitive | simple | composite | list => exact .refl store

theorem changes_attemptBuild (blueprint : Blueprint) : Changes (Attempt.build blueprint).run := by
  intro store
  unfold Attempt.build
  split
  · exact changes_build blueprint store
  · exact .refl store

theorem keptByEntering_changed (origin : Store) : KeptByEntering (Changed origin) where
  noted store notices reached := reached.trans (.reported store notices)
  build blueprint := (changes_attemptBuild blueprint).preserves origin
  registerType id := (changes_registerType id).preserves origin
  registerSchema id := (changes_registerSchema id).preserves origin
  registerFacet name schemas := (changes_registerFacet name schemas).preserves origin

theorem changes_load (document : SchemaDocument) : Changes (Attempt.load document).run :=
  fun store => (keptByEntering_changed store).load document store (.refl store)

theorem changes_loadText (text : String) : Changes (Attempt.loadText text).run :=
  fun store => Preserves.loadText (keptByEntering_changed store).load text store (.refl store)

theorem changes_loadFile (content : Option (List UInt8)) :
    Changes (Attempt.loadFile content).run :=
  fun store => Preserves.loadFile (keptByEntering_changed store).load content store (.refl store)

end Action
end DocumentTypes
