import DocumentTypes.Proofs.Construction
import DocumentTypes.Store.Registration

/-! # Registration, effect by effect

What registering does to a store. A change of a schema reaches composites only: those
behind facets that mention it are asked to merge again, and nothing else of any type
changes. -/

namespace DocumentTypes

namespace Store

/-- Composites were asked to merge again: each of the given ones that mentions the
schema at least once, and any composite any number of times. -/
structure Asked (schema : String) (facets : List TypeId) (before after : Store) : Prop where
  registry_eq : after.registry = before.registry
  registryId_eq : after.registryId = before.registryId
  size_eq : after.types.size = before.types.size
  base_eq : ∀ id, (after.type? id).map DocumentType.base = (before.type? id).map DocumentType.base
  type?_eq : ∀ id, before.compositeAt? id = none → after.type? id = before.type? id
  compositeAt? : ∀ id composite, before.compositeAt? id = some composite →
    ∃ count, after.compositeAt? id =
        some { composite with requested := composite.requested + count } ∧
      (id ∈ facets → composite.references.contains schema = true → 0 < count)

namespace Asked

variable {schema : String} {first second third : Store}

theorem refl (schema : String) (store : Store) : Asked schema [] store store where
  registry_eq := rfl
  registryId_eq := rfl
  size_eq := rfl
  base_eq _ := rfl
  type?_eq _ _ := rfl
  compositeAt? _ _ found := ⟨0, found, fun member => by cases member⟩

theorem invalidated (schema : String) {store : Store} {id : TypeId} {composite : CompositeType}
    (found : store.compositeAt? id = some composite) :
    Asked schema [id] store (store.setKind id (.composite composite.invalidate)) where
  registry_eq := registry_setKind
  registryId_eq := registryId_setKind
  size_eq := size_setKind
  base_eq other := by
    rw [type?_setKind]
    split
    next same =>
      rw [same]
      cases store.type? id <;> rfl
    next => rfl
  type?_eq other absent := by
    rw [type?_setKind, if_neg]
    intro same
    rw [same, found] at absent
    cases absent
  compositeAt? other present presentFound := by
    rw [compositeAt?_setKind_composite found]
    by_cases same : other = id
    · rw [same, found] at presentFound
      cases presentFound
      rw [if_pos same]
      exact ⟨1, rfl, fun _ _ => Nat.one_pos⟩
    · rw [if_neg same]
      exact ⟨0, presentFound, fun member => absurd (List.mem_singleton.mp member) same⟩

theorem of_notices {store : Store} {facets : List TypeId} (notices : List Notice)
    (asked : Asked schema facets { store with notices } second) :
    Asked schema facets store second :=
  ⟨asked.registry_eq, asked.registryId_eq, asked.size_eq, asked.base_eq,
    asked.type?_eq, asked.compositeAt?⟩

theorem noted {facets : List TypeId} (asked : Asked schema facets first second)
    (notice : Notice) : Asked schema facets first (second.note notice) :=
  ⟨asked.registry_eq, asked.registryId_eq, asked.size_eq, asked.base_eq,
    asked.type?_eq, asked.compositeAt?⟩

theorem unmentioned {store : Store} {id : TypeId}
    (silent : ∀ composite, store.compositeAt? id = some composite →
      composite.references.contains schema = false) : Asked schema [id] store store := by
  refine { refl schema store with compositeAt? := ?_ }
  intro other composite found
  refine ⟨0, found, fun member contained => ?_⟩
  rw [List.mem_singleton.mp member] at found
  rw [silent composite found] at contained
  cases contained

theorem trans {some others : List TypeId} (before : Asked schema some first second)
    (after : Asked schema others second third) : Asked schema (some ++ others) first third where
  registry_eq := after.registry_eq.trans before.registry_eq
  registryId_eq := after.registryId_eq.trans before.registryId_eq
  size_eq := after.size_eq.trans before.size_eq
  base_eq id := (after.base_eq id).trans (before.base_eq id)
  type?_eq id other := by
    have same := before.type?_eq id other
    have stillOther : second.compositeAt? id = none := by
      rw [Store.compositeAt?, same]
      exact other
    exact (after.type?_eq id stillOther).trans same
  compositeAt? id composite found := by
    rcases before.compositeAt? id composite found with ⟨earlier, middleFound, askedEarlier⟩
    rcases after.compositeAt? id _ middleFound with ⟨later, lastFound, askedLater⟩
    refine ⟨earlier + later, ?_, ?_⟩
    · rw [lastFound]
      simp [Nat.add_assoc]
    · intro member mentions
      rcases List.mem_append.mp member with some | other
      · have positive := askedEarlier some mentions
        omega
      · have positive := askedLater other mentions
        omega

theorem complexAt?_eq {facets : List TypeId} (asked : Asked schema facets first second)
    (id : TypeId) : second.complexAt? id = first.complexAt? id := by
  cases found : first.compositeAt? id with
  | none => rw [Store.complexAt?, asked.type?_eq id found, Store.complexAt?]
  | some composite =>
      rcases asked.compositeAt? id composite found with ⟨count, foundAfter, -⟩
      rw [complexAt?_of_compositeAt? found, complexAt?_of_compositeAt? foundAfter]

end Asked
end Store

namespace Action

variable {store : Store}

/-! ## Facets that mention a schema -/

theorem mentioning?_eq (store : Store) (schema : String) (id : TypeId) :
    store.mentioning? schema id =
      (store.compositeAt? id).filter fun composite => composite.references.contains schema :=
  rfl

theorem asked_invalidateFacet (schema : String) (facet : String × TypeId) (store : Store) :
    store.Asked schema [facet.2] ((invalidateFacet schema facet).run store).2 := by
  unfold invalidateFacet
  simp only [run_bind, run_get, mentioning?_eq]
  cases found : store.compositeAt? facet.2 with
  | none =>
      refine .unmentioned fun composite present => ?_
      rw [found] at present
      cases present
  | some composite =>
      by_cases mentions : composite.references.contains schema = true
      · rw [Option.filter_some, if_pos mentions]
        exact .of_notices _ (.invalidated schema found)
      · rw [Option.filter_some, if_neg mentions]
        refine .unmentioned fun other present => ?_
        rw [found] at present
        cases present
        exact Bool.eq_false_iff.mpr mentions

theorem asked_invalidateFacets (schema : String) (facets : List (String × TypeId))
    (store : Store) : store.Asked schema (facets.map Prod.snd)
      ((facets.forM (invalidateFacet schema)).run store).2 := by
  induction facets generalizing store with
  | nil => exact .refl schema store
  | cons facet rest induction =>
      exact (asked_invalidateFacet schema facet store).trans (induction _)

theorem asked_schemaChanged (schema : String) (store : Store) :
    (store.setRegistry { store.registry with fieldLookups := .empty }).Asked schema
      store.registry.facets.values ((schemaChanged schema).run store).2 :=
  asked_invalidateFacets schema store.registry.facets.entries _

/-! ## Schemas -/

theorem run_releaseQualifier (schema : String) (store : Store) :
    ∃ qualifiers, (releaseQualifier schema).run store =
      (⟨⟩, store.setRegistry { store.registry with qualifiers }) := by
  unfold releaseQualifier
  rw [run_bind, run_get]
  cases store.registry.schemas.get? schema with
  | none => exact ⟨store.registry.qualifiers, rfl⟩
  | some previous =>
      change ∃ qualifiers, (PUnit.unit, store.setRegistry (store.registry.releaseQualifier
        ((qualifierOf previous).run store).1 schema)) = _
      unfold Registry.releaseQualifier
      split
      · exact ⟨_, rfl⟩
      · exact ⟨store.registry.qualifiers, rfl⟩

theorem run_claimQualifier (qualifier schema : String) (store : Store) :
    ∃ qualifiers notices, (claimQualifier qualifier schema).run store =
      (⟨⟩, { store.setRegistry { store.registry with qualifiers } with notices }) := by
  unfold claimQualifier
  split
  · rw [run_bind, run_get, run_bind, run_modify]
    cases store.registry.qualifiers.get? qualifier with
    | none => exact ⟨store.registry.qualifiers.put qualifier schema, store.notices, rfl⟩
    | some owner =>
        dsimp only
        split
        · exact ⟨store.registry.qualifiers.put qualifier schema,
            .qualifierMoved qualifier owner schema :: store.notices, rfl⟩
        · exact ⟨store.registry.qualifiers.put qualifier schema, store.notices, rfl⟩
  · exact ⟨store.registry.qualifiers, store.notices, rfl⟩

theorem asked_registerComplex (id : TypeId) (name : TypeName) (space : Namespace)
    (store : Store) : ∃ qualifiers,
      (store.setRegistry { store.registry with
        types := store.registry.types.put name id
        schemas := store.registry.schemas.put name.name id
        qualifiers
        fieldLookups := .empty }).Asked name.name store.registry.facets.values
      ((registerComplex id name space).run store).2 := by
  rcases run_releaseQualifier name.name store with ⟨released, releaseRun⟩
  rcases run_claimQualifier space.qualifier name.name
    (store.setRegistry { store.registry with qualifiers := released }) with
    ⟨qualifiers, notices, claimRun⟩
  let changed : Store := { store with
    notices
    registry := { store.registry with
      types := store.registry.types.put name id
      schemas := store.registry.schemas.put name.name id
      qualifiers } }
  refine ⟨qualifiers, ?_⟩
  unfold registerComplex
  simp only [run_bind, releaseRun, claimRun, run_modify, run_note]
  exact .of_notices notices ((asked_schemaChanged name.name changed).noted _)

theorem asked_unregisterSchema (schema : String) (store : Store) :
    ((unregisterSchema schema).run store).2 = store ∨
    ∃ name qualifiers,
      (store.setRegistry { store.registry with
        types := store.registry.types.erase name
        schemas := store.registry.schemas.erase schema
        qualifiers
        fieldLookups := .empty }).Asked schema store.registry.facets.values
      ((unregisterSchema schema).run store).2 := by
  unfold unregisterSchema
  rw [run_bind, run_get]
  cases store.registry.schemas.get? schema with
  | none => exact .inl rfl
  | some id =>
      rcases run_releaseQualifier schema store with ⟨qualifiers, releaseRun⟩
      let home := (store.type? id).elim "" fun type => type.name.schema
      let changed : Store := store.setRegistry { store.registry with
        types := store.registry.types.erase ⟨home, schema⟩
        schemas := store.registry.schemas.erase schema
        qualifiers }
      refine .inr ⟨⟨home, schema⟩, qualifiers, ?_⟩
      simp only [run_bind, releaseRun, run_type?, run_modify, run_note, run_pure]
      exact (asked_schemaChanged schema changed).noted _

/-! ## Types and facets -/

theorem run_registerType {id : TypeId} {type : DocumentType}
    (found : store.type? id = some type) :
    ∃ notices, (registerType id).run store =
      (⟨⟩, { store.setRegistry { store.registry with
        types := store.registry.types.put type.name id } with notices }) := by
  unfold registerType
  rw [run_bind, run_type?, found]
  dsimp only
  rw [run_bind, run_get, run_bind, run_modify]
  split
  · exact ⟨.redefinedType type.name :: store.notices, rfl⟩
  · exact ⟨store.notices, rfl⟩

theorem run_noteUnknownSchemas (name : String) (schemas : List String) (store : Store) :
    ∃ notices, (schemas.forM (noteUnknownSchema name)).run store =
      (⟨⟩, { store with notices }) := by
  induction schemas generalizing store with
  | nil => exact ⟨store.notices, rfl⟩
  | cons schema rest induction =>
      change ∃ notices, (rest.forM (noteUnknownSchema name)).run
        ((noteUnknownSchema name schema).run store).2 = _
      unfold noteUnknownSchema
      rw [run_bind, run_get]
      split
      · exact induction (store.note (.facetSchemaUnknown name schema))
      · exact induction store

theorem run_registerFacet (name : String) (schemas : List String) (store : Store) :
    ∃ notices, (registerFacet name schemas).run store = (store.nextId,
      { store.push ((Blueprint.facet store.registryId name schemas).built store) with
        registry := { store.registry with
          facets := store.registry.facets.put name store.nextId
          types := store.registry.types.put ⟨facetSchema, name⟩ store.nextId }
        notices }) := by
  rcases run_noteUnknownSchemas name schemas store with ⟨unknown, unknownRun⟩
  rcases run_build (.facet store.registryId name schemas) { store with notices := unknown } with
    ⟨built, buildRun⟩
  refine ⟨.facetRegistered name :: built, ?_⟩
  unfold registerFacet
  simp only [run_bind, unknownRun, run_get, buildRun, run_modify, run_note, run_pure]
  rfl

end Action
end DocumentTypes
