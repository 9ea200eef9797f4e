import DocumentTypes.Proofs.History

/-! # What facets show

A facet merges its schemas lazily, and a request counter says whether its last merger
still answers. The counter is right after every change: a facet without an open request
shows the schemas that are registered under its names at this moment. -/

namespace DocumentTypes

namespace Store

variable {before after store : Store} {composite : CompositeType}

/-- A merger of schemas remains one while they keep their fields and their names. -/
theorem SchemasKept.shows {snapshot : Snapshot} {names : List String}
    (kept : before.SchemasKept after) (complex : before.SchemasComplex)
    (same : ∀ name ∈ names,
      after.registry.schemas.get? name = before.registry.schemas.get? name)
    (shows : snapshot.Shows before (before.presentSchemas names)) :
    snapshot.Shows after (after.presentSchemas names) := by
  have found : ∀ id ∈ before.presentSchemas names, ∃ complex lookups,
      before.complexAt? id = some complex ∧
        after.complexAt? id = some { complex with lookups } := by
    intro id member
    rcases List.mem_filterMap.mp member with ⟨name, -, registered⟩
    rcases complex name id registered with ⟨schema, schemaFound⟩
    rcases kept id (Table.mem_values_iff.mpr ⟨name, registered⟩) schema schemaFound with
      ⟨lookups, stays⟩
    exact ⟨schema, lookups, schemaFound, stays⟩
  rw [presentSchemas_congr same]
  refine shows.of_eq_on ?_ ?_
  · intro id member
    rcases found id member with ⟨schema, lookups, was, is⟩
    simp [fieldsAt, was, is]
  · intro id member
    rcases found id member with ⟨schema, lookups, was, is⟩
    simp [qualifierAt, was, is]

/-- A composite names schemas, and shows them unless a request is open. -/
structure ShowsSchemas (store : Store) (composite : CompositeType) : Prop where
  named : store.NamesSchemas composite
  answers : composite.merged.revision ≤ composite.requested
  shows : composite.isCurrent = true →
    composite.merged.Shows store (store.presentSchemas composite.references.keys)

namespace ShowsSchemas

theorem of_outdated (named : store.NamesSchemas composite)
    (outdated : composite.merged.revision < composite.requested) :
    store.ShowsSchemas composite where
  named := named
  answers := by omega
  shows current := by
    have answered : composite.requested ≤ composite.merged.revision := of_decide_eq_true current
    omega

theorem transfer (current : before.ShowsSchemas composite) (complex : before.SchemasComplex)
    (kept : before.SchemasKept after) (registryId : after.registryId = before.registryId)
    (same : ∀ name ∈ composite.references.keys,
      after.registry.schemas.get? name = before.registry.schemas.get? name) :
    after.ShowsSchemas composite where
  named entry member := by
    rw [registryId]
    exact current.named entry member
  answers := current.answers
  shows isCurrent := kept.shows complex same (current.shows isCurrent)

end ShowsSchemas

/-- Every facet is a composite that shows its schemas. -/
structure FacetsCurrent (store : Store) : Prop where
  complex : store.SchemasComplex
  facet : ∀ id ∈ store.registry.facets.values,
    ∃ composite, store.compositeAt? id = some composite ∧ store.ShowsSchemas composite

namespace FacetsCurrent

theorem of_empty (empty : store.registry = .empty) : store.FacetsCurrent := by
  constructor
  · intro name id registered
    rw [empty] at registered
    cases registered
  · intro id member
    rw [empty] at member
    cases member

theorem showsSchemas (current : store.FacetsCurrent) {id : TypeId}
    (found : store.compositeAt? id = some composite)
    (member : id ∈ store.registry.facets.values) : store.ShowsSchemas composite := by
  rcases current.facet id member with ⟨present, presentFound, shows⟩
  cases found.symm.trans presentFound
  exact shows

theorem of_kept (current : before.FacetsCurrent) (kept : before.SchemasKept after)
    (registryId : after.registryId = before.registryId)
    (schemas : after.registry.schemas = before.registry.schemas)
    (facets : after.registry.facets = before.registry.facets)
    (composites : ∀ id composite, id ∈ before.registry.facets.values →
      before.compositeAt? id = some composite → after.ShowsSchemas composite →
      ∃ composite, after.compositeAt? id = some composite ∧ after.ShowsSchemas composite) :
    after.FacetsCurrent where
  complex := kept.schemasComplex current.complex schemas
  facet id member := by
    rw [facets] at member
    rcases current.facet id member with ⟨composite, found, shows⟩
    exact composites id composite member found
      (shows.transfer current.complex kept registryId fun _ _ => by rw [schemas])

theorem observed (current : before.FacetsCurrent) (step : before.Observed after) :
    after.FacetsCurrent := by
  induction step with
  | refl => exact current
  | trans _ _ first second => exact second (first current)
  | noted store notice =>
      exact current.of_kept (Observed.noted store notice).schemasKept rfl rfl rfl
        fun id composite _ found shows => ⟨composite, found, shows⟩
  | @remembered store name field correct =>
      exact current.of_kept (Observed.remembered correct).schemasKept rfl rfl rfl
        fun id composite _ found shows => ⟨composite, found, shows⟩
  | @looked store looked complex complexFound name =>
      have kept := (Observed.looked complexFound name).schemasKept
      refine current.of_kept kept registryId_setKind (by rw [registry_setKind])
        (by rw [registry_setKind]) fun id composite _ found shows => ?_
      refine ⟨composite, ?_, shows⟩
      rw [compositeAt?_setKind_complex complexFound]
      exact found
  | @merged store merged composite snapshot compositeFound revision shown =>
      have kept := (Observed.merged compositeFound revision shown).schemasKept
      refine current.of_kept kept registryId_setKind (by rw [registry_setKind])
        (by rw [registry_setKind]) fun id other member found shows => ?_
      rw [compositeAt?_setKind_composite compositeFound]
      by_cases same : id = merged
      · subst same
        cases compositeFound.symm.trans found
        have named := (current.showsSchemas compositeFound member).named
        rw [if_pos rfl]
        refine ⟨_, rfl, shows.named, Nat.le_of_eq revision, fun _ => ?_⟩
        exact kept.shows current.complex (fun _ _ => by rw [registry_setKind])
          (shown current.complex named)
      · rw [if_neg same]
        exact ⟨other, found, shows⟩

theorem of_complexAt? (current : before.FacetsCurrent)
    (complexes : ∀ id complex, before.complexAt? id = some complex →
      id ∈ before.registry.schemas.values → after.complexAt? id = some complex)
    (composites : ∀ id composite, before.compositeAt? id = some composite →
      after.compositeAt? id = some composite)
    (registryId : after.registryId = before.registryId)
    (schemas : after.registry.schemas = before.registry.schemas)
    (facets : after.registry.facets = before.registry.facets) : after.FacetsCurrent := by
  have kept : before.SchemasKept after := fun id member complex found =>
    ⟨complex.lookups, complexes id complex found member⟩
  exact current.of_kept kept registryId schemas facets
    fun id composite _ found shows => ⟨composite, composites id composite found, shows⟩

theorem outdated (current : store.FacetsCurrent) {id : TypeId}
    (found : store.compositeAt? id = some composite) {next : CompositeType}
    (named : id ∈ store.registry.facets.values → store.NamesSchemas next)
    (requested : next.requested = composite.requested + 1)
    (merged : next.merged = composite.merged) :
    (store.setKind id (.composite next)).FacetsCurrent := by
  have kept : store.SchemasKept (store.setKind id (.composite next)) :=
    .of_complexAt? fun other _ => complexAt?_setKind_composite found other
  refine current.of_kept kept registryId_setKind (by rw [registry_setKind])
    (by rw [registry_setKind]) fun other present member presentFound shows => ?_
  rw [compositeAt?_setKind_composite found]
  by_cases same : other = id
  · subst same
    cases found.symm.trans presentFound
    rw [if_pos rfl]
    refine ⟨next, rfl, .of_outdated ?_ ?_⟩
    · intro entry entryMember
      rw [registryId_setKind]
      exact named member entry entryMember
    · have answers := shows.answers
      rw [merged, requested]
      omega
  · rw [if_neg same]
    exact ⟨present, presentFound, shows⟩

theorem schemaChanged (current : store.FacetsCurrent) {schema : String} {registry : Registry}
    (elsewhere : ∀ name, name ≠ schema →
      registry.schemas.get? name = store.registry.schemas.get? name)
    (complex : ∀ id, registry.schemas.get? schema = some id →
      ∃ complex, store.complexAt? id = some complex)
    (facets : registry.facets = store.registry.facets)
    (asked : (store.setRegistry registry).Asked schema store.registry.facets.values after) :
    after.FacetsCurrent where
  complex := current.complex.schemaChanged elsewhere complex asked
  facet id member := by
    rw [asked.registry_eq] at member
    change id ∈ registry.facets.values at member
    rw [facets] at member
    rcases current.facet id member with ⟨composite, found, shows⟩
    rcases asked.compositeAt? id composite found with ⟨count, foundAfter, positive⟩
    refine ⟨_, foundAfter, ?_⟩
    have kept : store.SchemasKept after := .of_complexAt? fun other _ => asked.complexAt?_eq other
    by_cases mentions : composite.references.contains schema = true
    · refine .of_outdated ?_ ?_
      · intro entry entryMember
        rw [asked.registryId_eq]
        exact shows.named entry entryMember
      · have answers := shows.answers
        have positive := positive member mentions
        dsimp only
        omega
    · have others : ∀ name ∈ composite.references.keys, after.registry.schemas.get? name =
          store.registry.schemas.get? name := by
        intro name nameMember
        rw [asked.registry_eq]
        refine elsewhere name fun same => mentions ?_
        rw [← same]
        exact Table.contains_iff.mpr (Table.mem_keys_iff.mp nameMember)
      have transferred := shows.transfer current.complex kept asked.registryId_eq others
      have answers := transferred.answers
      refine ⟨transferred.named, ?_, fun isCurrent => ?_⟩
      · dsimp only
        omega
      · have answered : composite.requested + count ≤ composite.merged.revision :=
          of_decide_eq_true isCurrent
        refine transferred.shows (decide_eq_true ?_)
        omega

theorem changed (current : before.FacetsCurrent) (step : before.Changed after) :
    after.FacetsCurrent := by
  induction step with
  | trans _ _ first second => exact second (first current)
  | observed observed => exact current.observed observed
  | reported | typeRegistered | held =>
      exact current.of_complexAt? (fun _ _ found _ => found) (fun _ _ found => found) rfl rfl rfl
  | built store blueprint =>
      exact current.of_complexAt? (fun _ _ found _ => complexAt?_push_of_some found)
        (fun _ _ found => compositeAt?_push_of_some found) rfl rfl rfl
  | @declared store declaring complex found unregistered name declaration =>
      refine current.of_complexAt? ?_ ?_ registryId_setKind (by rw [registry_setKind])
        (by rw [registry_setKind])
      · intro id other otherFound member
        rw [complexAt?_setKind_complex found, if_neg]
        · exact otherFound
        · exact fun same => unregistered (same ▸ member)
      · intro id composite compositeFound
        rw [compositeAt?_setKind_complex found]
        exact compositeFound
  | schemaChanged schema registry elsewhere complex _ facets _ asked =>
      exact current.schemaChanged elsewhere complex facets asked
  | @facetEntered store id composite found named outdated name =>
      refine ⟨current.complex, fun other member => ?_⟩
      rcases Table.mem_values_put member with same | old
      · rw [same]
        exact ⟨composite, found, .of_outdated named outdated⟩
      · rcases current.facet other old with ⟨present, presentFound, shows⟩
        exact ⟨present, presentFound, shows.transfer current.complex
          (.of_complexAt? fun _ _ => rfl) rfl fun _ _ => rfl⟩
  | @schemaAdded store id composite found name reference named =>
      refine current.outdated found (fun member => ?_) rfl rfl
      rw [named member]
      exact (current.showsSchemas found member).named.addSchema name
  | invalidated found =>
      exact current.outdated found (fun member => (current.showsSchemas found member).named) rfl rfl
  | dropped => exact .of_empty rfl

end FacetsCurrent

theorem Reachable.facetsCurrent (reachable : store.Reachable) : store.FacetsCurrent :=
  FacetsCurrent.changed (.of_empty rfl) reachable.changed

end Store

/-! ## Reading facets -/

namespace Action

variable {store : Store} {id : TypeId} {composite : CompositeType}

theorem merge_shows (complex : store.SchemasComplex) (named : store.NamesSchemas composite)
    (depth : Nat) (id : TypeId) :
    ((merge (fieldsWithin depth) id composite).run store).1.Shows store
      (store.presentSchemas composite.references.keys) := by
  rcases foldlM_mergeSchema_shows complex depth composite.references.entries named
    (Snapshot.Shows.empty store (composite.merged.generation + 1) composite.requested) with
    ⟨snapshot, notices, folded, shows⟩
  simp only [merge, run_bind, folded]
  exact shows

theorem snapshotOf_shows (complex : store.SchemasComplex)
    (found : store.compositeAt? id = some composite) (shows : store.ShowsSchemas composite) :
    ((snapshotOf id).run store).1.Shows store
      (store.presentSchemas composite.references.keys) := by
  have bound : (store.type? id).bind DocumentType.composite? = some composite := found
  simp only [snapshotOf, run_bind, run_type?, bound]
  split
  next isCurrent => exact shows.shows isCurrent
  next =>
    rw [run_bind, run_get]
    exact merge_shows complex shows.named _ id

theorem fieldsOf_shows (complex : store.SchemasComplex)
    (found : store.compositeAt? id = some composite) (shows : store.ShowsSchemas composite) :
    ((fieldsOf id).run store).1 =
      (store.presentSchemas composite.references.keys).flatMap store.fieldsAt := by
  have kind := Store.kind_of_compositeAt? found
  simp only [fieldsOf, run_bind, run_get]
  unfold fieldsWithin
  simp only [run_bind, run_type?, kind]
  split
  next isCurrent => exact (shows.shows isCurrent).fields_eq
  next =>
    rw [run_bind]
    exact (merge_shows complex shows.named _ id).fields_eq

theorem lookUp_composite (found : store.compositeAt? id = some composite) (name : String) :
    ((lookUp id name).run store).1 =
      ((snapshotOf id).run store).1.fieldsByName.get? name := by
  have kind := Store.kind_of_compositeAt? found
  simp only [lookUp, run_bind, run_type?, kind]
  rfl

/-- Facets never show anything outdated: after any history, a registered facet shows the
schemas that are registered under its names at this moment, in the order of the names,
and names without a schema are passed over. -/
theorem facet_shows_registered_schemas (reachable : store.Reachable) {facet : String}
    (registered : store.registry.facets.get? facet = some id) :
    ∃ composite, store.compositeAt? id = some composite ∧
      let schemas := composite.references.keys.filterMap store.registry.schemas.get?
      let fields := schemas.flatMap store.fieldsAt
      ((snapshotOf id).run store).1.Shows store schemas ∧
      ((fieldsOf id).run store).1 = fields ∧
      ∀ name, ((lookUp id name).run store).1 = fields.reverse.find? (·.isShownAs name) := by
  have current := reachable.facetsCurrent
  rcases current.facet id (Table.mem_values_iff.mpr ⟨facet, registered⟩) with
    ⟨composite, found, shows⟩
  have snapshot := snapshotOf_shows current.complex found shows
  refine ⟨composite, found, snapshot, fieldsOf_shows current.complex found shows, fun name => ?_⟩
  rw [lookUp_composite found]
  exact snapshot.field_eq name

/-- A facet is registered before its first schema, and does not wait for its second. -/
theorem facet_shows_later_schema :
    let store := Operation.perform (.registerSchema ⟨9⟩)
      (Operation.perform (.build {
          name := ⟨"dc", "dc"⟩
          body := .complex ⟨"", "d"⟩ none [{ name := "title", valueType := .null }] })
        (Operation.perform (.registerFacet "record" ["dc", "note"]) .initial))
    store.Reachable ∧ store.registry.facets.get? "record" = some ⟨8⟩ ∧
    ((snapshotOf ⟨8⟩).run store).1.schemas = [⟨9⟩] ∧
    ∃ composite, store.compositeAt? ⟨8⟩ = some composite ∧
      let schemas := composite.references.keys.filterMap store.registry.schemas.get?
      let fields := schemas.flatMap store.fieldsAt
      ((snapshotOf ⟨8⟩).run store).1.Shows store schemas ∧
      ((fieldsOf ⟨8⟩).run store).1 = fields ∧
      ∀ name, ((lookUp ⟨8⟩ name).run store).1 = fields.reverse.find? (·.isShownAs name) := by
  intro store
  have reachable : store.Reachable :=
    .performed (.performed (.performed .initial trivial) trivial) trivial
  have registered : store.registry.facets.get? "record" = some ⟨8⟩ := by decide +kernel
  have shown : ((snapshotOf ⟨8⟩).run store).1.schemas = [⟨9⟩] := by decide +kernel
  exact ⟨reachable, registered, shown, facet_shows_registered_schemas reachable registered⟩

end Action
end DocumentTypes
