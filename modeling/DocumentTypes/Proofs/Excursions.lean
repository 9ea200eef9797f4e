import DocumentTypes.Proofs.Firmness
import DocumentTypes.Proofs.ShownFields
import DocumentTypes.Proofs.UsedStores

/-! # Excursions

A schema is registered, types are read for a while, and the schema is given up again. What
such an excursion leaves behind is told for all stores on the way. Facets merge again after
either change, but any other composite shows what it merged on the way, and what keeps a
type alive may be nothing but a snapshot that is merged again. Where neither matters, reading
leaves no trace. -/

namespace DocumentTypes

namespace Store

variable {before during origin store after left right : Store} {id : TypeId}

/-! ## The same tables -/

theorem bare_roots_eq (store : Store) : store.bare.roots = store.registry.types.values ++
    store.registry.schemas.values ++ store.registry.facets.values ++ [] ++ store.holdings.held :=
  rfl

/-- Two stores hold the same, and their registries answer the same, up to the fields that
they remember. -/
structure SameTables (left right : Store) : Prop where
  holdings_eq : right.holdings = left.holdings
  registryId_eq : right.registryId = left.registryId
  types_eq : right.registry.types = left.registry.types
  schemas_eq : right.registry.schemas = left.registry.schemas
  facets_eq : right.registry.facets = left.registry.facets
  qualifier_eq : ∀ qualifier,
    right.registry.qualifiers.get? qualifier = left.registry.qualifiers.get? qualifier

namespace SameTables

theorem refl (store : Store) : store.SameTables store := ⟨rfl, rfl, rfl, rfl, rfl, fun _ => rfl⟩

theorem trans {middle : Store} (first : left.SameTables middle)
    (second : middle.SameTables right) : left.SameTables right where
  holdings_eq := second.holdings_eq.trans first.holdings_eq
  registryId_eq := second.registryId_eq.trans first.registryId_eq
  types_eq := second.types_eq.trans first.types_eq
  schemas_eq := second.schemas_eq.trans first.schemas_eq
  facets_eq := second.facets_eq.trans first.facets_eq
  qualifier_eq qualifier := (second.qualifier_eq qualifier).trans (first.qualifier_eq qualifier)

theorem of_sameDeclared (same : left.SameDeclared right) : left.SameTables right where
  holdings_eq := (congrArg Store.holdings same.eq.symm :)
  registryId_eq := same.registryId_eq.symm
  types_eq := (congrArg (fun store : Store => store.registry.types) same.eq.symm :)
  schemas_eq := same.schemas_eq.symm
  facets_eq := (congrArg (fun store : Store => store.registry.facets) same.eq.symm :)
  qualifier_eq qualifier :=
    (congrArg (fun store : Store => store.registry.qualifiers.get? qualifier) same.eq.symm :)

theorem resolve_eq (same : left.SameTables right) {reference : TypeRef}
    (forward : reference.isBack = false) : right.resolve reference = left.resolve reference :=
  resolve_of_forward same.registryId_eq same.types_eq same.schemas_eq forward

theorem schemaByQualifier?_eq (same : left.SameTables right) (qualifier : String) :
    right.registry.schemaByQualifier? qualifier = left.registry.schemaByQualifier? qualifier := by
  rw [Registry.schemaByQualifier?, Registry.schemaByQualifier?, same.qualifier_eq, same.schemas_eq]

theorem schemaFor?_eq (same : left.SameTables right) (qualifier : String) :
    right.registry.schemaFor? qualifier = left.registry.schemaFor? qualifier := by
  rw [Registry.schemaFor?, Registry.schemaFor?, same.schemaByQualifier?_eq, same.schemas_eq]

theorem roots_bare_eq (same : left.SameTables right) : right.bare.roots = left.bare.roots := by
  rw [bare_roots_eq, bare_roots_eq, same.types_eq, same.schemas_eq, same.facets_eq,
    same.holdings_eq]

end SameTables

/-! ## What does not change on the way -/

section Steadily

variable (before during : Store)

/-- A reference back to a type that is alive whatever is derived, or dead even with one more
schema, or any other reference. -/
def leadsSteadily : TypeRef → Bool
  | .owner type _ => before.isFirm type || !during.isAlive type
  | _ => true

/-- A reference that means the same with one more schema as without, and means nothing that has
to be merged. -/
def mergesSteadily (reference : TypeRef) : Bool :=
  before.leadsSteadily during reference &&
    decide (during.resolve reference = before.resolve reference) &&
    (before.resolve reference).all fun id =>
      (before.compositeAt? id).isNone || before.showsSettled id

/-- A type is no composite, or a facet, or it is up to date already, or it will show the same
whenever it is merged. -/
def showsSteadily (id : TypeId) : Bool :=
  (before.compositeAt? id).all fun composite =>
    before.registry.facets.values.contains id || composite.isCurrent ||
      composite.references.values.all (before.mergesSteadily during)

end Steadily

def settledFields (store : Store) (id : TypeId) : List Field :=
  match store.complexAt? id with
  | some complex => complex.fields.values
  | none => (store.compositeAt? id).elim [] fun composite => composite.merged.fields

/-- Composites other than facets that are merged on the way show what they would have shown
before. -/
def MergedAsBefore (before during store : Store) : Prop :=
  ∀ id composite, before.compositeAt? id = some composite →
    id ∉ before.registry.facets.values →
    composite.isCurrent = false →
    composite.references.values.all (before.mergesSteadily during) = true →
    ∀ later, store.compositeAt? id = some later → later.isCurrent = true →
      later.merged.fields =
        (composite.references.values.filterMap before.resolve).flatMap before.settledFields

/-- A store on the way, with the tables of the store at the beginning or of the one with one
more schema. -/
structure Traceless (before during origin store : Store) : Prop where
  origin_eq : origin = before ∨ origin = during
  plain : before.SamePlain store
  tables : origin.SameTables store
  roots : ∀ id ∈ before.bare.roots, id ∈ store.bare.roots
  alive : ∀ id, store.isAlive id = true → during.isAlive id = true
  caches : store.CachesRight
  facets : store.FacetsCurrent
  indexed : store.Indexed
  current : ∀ id composite, before.compositeAt? id = some composite →
    id ∉ before.registry.facets.values → composite.isCurrent = true →
    store.compositeAt? id = some composite
  merged : before.MergedAsBefore during store

namespace Traceless

/-! ## References -/

theorem isAlive_eq (traceless : before.Traceless during origin store) {target : TypeName}
    (steady : before.leadsSteadily during (.owner id target) = true) :
    store.isAlive id = before.isFirm id := by
  have lives (firm : before.isFirm id = true) : store.isAlive id = true :=
    isAlive_of_isFirm traceless.plain traceless.current
      (fun root member => roots_of_bare (traceless.roots root member)) firm
  rcases Bool.or_eq_true_iff.mp steady with firm | dead
  · rw [firm, lives firm]
  · have gone : store.isAlive id = false := by
      refine eq_false_of_ne_true fun alive => ?_
      rw [traceless.alive id alive] at dead
      cases dead
    rw [gone]
    refine (eq_false_of_ne_true fun firm => ?_).symm
    cases gone.symm.trans (lives firm)

/-- Steady references back mean the same throughout, so only the other ones are of interest. -/
theorem resolve_eq_of_forward {other : Store} (first : before.Traceless during origin left)
    (second : before.Traceless during other right) {reference : TypeRef}
    (steady : before.leadsSteadily during reference = true)
    (same : reference.isBack = false → left.resolve reference = right.resolve reference) :
    left.resolve reference = right.resolve reference := by
  cases reference with
  | owner type target => simp only [resolve, first.isAlive_eq steady, second.isAlive_eq steady]
  | null | named | schema | direct => exact same rfl

theorem resolve_congr (first : before.Traceless during origin left)
    (second : before.Traceless during origin right) {reference : TypeRef}
    (steady : before.leadsSteadily during reference = true) :
    left.resolve reference = right.resolve reference :=
  first.resolve_eq_of_forward second steady fun forward => by
    rw [first.tables.resolve_eq forward, second.tables.resolve_eq forward]

/-- What merges steadily means the same with one more schema as without. -/
theorem resolve_eq (start : before.Traceless during before before)
    (traceless : before.Traceless during origin store) {reference : TypeRef}
    (steady : before.mergesSteadily during reference = true) :
    store.resolve reference = before.resolve reference := by
  simp only [mergesSteadily, Bool.and_eq_true, decide_eq_true_eq] at steady
  rcases steady with ⟨⟨leads, same⟩, -⟩
  refine traceless.resolve_eq_of_forward start leads fun forward => ?_
  rw [traceless.tables.resolve_eq forward]
  rcases traceless.origin_eq with rfl | rfl
  · rfl
  · exact same

/-! ## Steps -/

theorem steady (traceless : before.Traceless during origin store) (steady : store.Steady after)
    (indexed : after.Indexed) (merged : before.MergedAsBefore during after) :
    before.Traceless during origin after where
  origin_eq := traceless.origin_eq
  plain := traceless.plain.trans (.of_sameDeclared steady.sameDeclared)
  tables := traceless.tables.trans (.of_sameDeclared steady.sameDeclared)
  roots := (SameTables.of_sameDeclared steady.sameDeclared).roots_bare_eq ▸ traceless.roots
  alive id alive := traceless.alive id (steady.loosened.isAlive alive)
  caches := traceless.caches.consulted steady.consulted
  facets := traceless.facets.consulted steady.consulted
  indexed := indexed
  current id composite found free now :=
    steady.current id composite (traceless.current id composite found free now) now
  merged := merged

theorem steady_of_compositeAt? (traceless : before.Traceless during origin store)
    (steady : store.Steady after)
    (same : ∀ id, after.compositeAt? id = store.compositeAt? id) :
    before.Traceless during origin after :=
  traceless.steady steady
    (fun id composite found => traceless.indexed id composite (same id ▸ found))
    fun id composite found free outdated merges later laterFound =>
      traceless.merged id composite found free outdated merges later (same id ▸ laterFound)

theorem noted (traceless : before.Traceless during origin store) (notice : Notice) :
    before.Traceless during origin (store.note notice) :=
  traceless.steady_of_compositeAt? (.noted store notice) fun _ => rfl

theorem bare (traceless : before.Traceless during origin store) (observed : store.Observed after)
    (same : after.bare = store.bare) : before.Traceless during origin after := by
  have caches := traceless.caches.observed observed
  have composites (id : TypeId) : after.compositeAt? id = store.compositeAt? id := by
    rw [← compositeAt?_bare, same, compositeAt?_bare]
  exact {
    origin_eq := traceless.origin_eq
    plain := traceless.plain.trans (.of_sameDeclared observed.sameDeclared)
    tables := traceless.tables.trans (.of_sameDeclared observed.sameDeclared)
    roots := same.symm ▸ traceless.roots
    alive id alive := traceless.alive id (by
      rwa [← isAlive_bare traceless.caches, ← same, isAlive_bare caches])
    caches
    facets := traceless.facets.observed observed
    indexed id composite found := traceless.indexed id composite (composites id ▸ found)
    current id composite found free now :=
      (composites id).trans (traceless.current id composite found free now)
    merged id composite found free outdated merges later laterFound :=
      traceless.merged id composite found free outdated merges later (composites id ▸ laterFound) }

/-! ## Mergers -/

theorem run_fieldsWithin (traceless : before.Traceless during origin store)
    (settled : ((before.compositeAt? id).isNone || before.showsSettled id) = true) (depth : Nat) :
    (Action.fieldsWithin depth id).run store = (before.settledFields id, store) := by
  unfold settledFields
  cases complexFound : before.complexAt? id with
  | some complex =>
      rcases traceless.plain.complexAt? complexFound with ⟨lookups, later⟩
      rw [Action.run_fieldsWithin_complex later, fieldsAt, later]
      rfl
  | none =>
      cases found : before.compositeAt? id with
      | some composite =>
          simp only [found, Option.isNone_some, Bool.false_or, showsSettled, Bool.and_eq_true,
            Option.any_some] at settled
          have stays := traceless.current id composite found (by simpa using settled.1) settled.2
          rw [Action.run_fieldsWithin_current stays settled.2]
          rfl
      | none =>
          have notComplex := traceless.plain.complexAt?_eq_none complexFound
          have notComposite := traceless.plain.compositeAt?_eq_none found
          exact Action.run_fieldsWithin_other notComplex notComposite depth

/-- The induction is on the references still to be merged. -/
theorem fields_foldlM (start : before.Traceless during before before)
    (traceless : before.Traceless during origin store) (depth : Nat)
    {entries : List (String × TypeRef)}
    (steady : ∀ entry ∈ entries, before.mergesSteadily during entry.2 = true)
    (snapshot : Snapshot) :
    ((entries.foldlM (Action.mergeSchema (Action.fieldsWithin depth)) snapshot).run store).1.fields =
      snapshot.fields ++
        (entries.filterMap fun entry => before.resolve entry.2).flatMap before.settledFields := by
  induction entries generalizing store snapshot with
  | nil => exact (List.append_nil _).symm
  | cons entry rest induction =>
      have merges := steady entry List.mem_cons_self
      have others := fun other member => steady other (List.mem_cons_of_mem entry member)
      have means := start.resolve_eq traceless merges
      cases resolved : before.resolve entry.2 with
      | none =>
          rw [resolved] at means
          have skipped : (entry :: rest).filterMap (fun entry => before.resolve entry.2) =
              rest.filterMap fun entry => before.resolve entry.2 :=
            List.filterMap_cons_none resolved
          rw [skipped, List.foldlM_cons, Action.run_bind]
          simp only [Action.mergeSchema, Action.run_bind, Action.run_resolve, means]
          exact induction (traceless.noted _) others snapshot
      | some id =>
          rw [resolved] at means
          simp only [mergesSteadily, Bool.and_eq_true, resolved, Option.all_some] at merges
          have fields := traceless.run_fieldsWithin merges.2 depth
          have added : (entry :: rest).filterMap (fun entry => before.resolve entry.2) =
              id :: rest.filterMap fun entry => before.resolve entry.2 :=
            List.filterMap_cons_some resolved
          rw [added, List.foldlM_cons, Action.run_bind]
          simp only [Action.mergeSchema, Action.run_bind, Action.run_resolve, means,
            Action.run_type?, fields, Action.run_pure]
          rw [induction traceless others, List.flatMap_cons, ← List.append_assoc]
          rfl

/-- A merger on the way shows what it would have shown before. -/
theorem fields_merge (start : before.Traceless during before before)
    (traceless : before.Traceless during origin store) (composite : CompositeType)
    (steady : composite.references.values.all (before.mergesSteadily during) = true)
    (depth : Nat) (id : TypeId) :
    ((Action.merge (Action.fieldsWithin depth) id composite).run store).1.fields =
      (composite.references.values.filterMap before.resolve).flatMap before.settledFields := by
  rw [Table.values, List.filterMap_map]
  refine start.fields_foldlM traceless depth (fun entry member => ?_) _
  exact List.all_eq_true.mp steady entry.2 (List.mem_map_of_mem member)

end Traceless
end Store

/-! ## Reads -/

namespace Action

open Store (Traceless)

variable {before during origin store : Store} {id : TypeId}

/-- What a composite comes to show is settled by its references. What other composites show was
settled when they were merged for it. -/
theorem traceless_merge (start : before.Traceless during before before) {depth : Nat}
    (each : ∀ id, Preserves (before.Traceless during origin) (fieldsWithin depth id))
    (traceless : before.Traceless during origin store) {composite : CompositeType}
    (found : store.compositeAt? id = some composite) (outdated : composite.isCurrent = false) :
    before.Traceless during origin ((merge (fieldsWithin depth) id composite).run store).2 := by
  have steady := (steady_merge (showsFields_fieldsWithin depth) found outdated).1
  let opening : Snapshot := { Snapshot.empty with
    generation := composite.merged.generation + 1
    revision := composite.requested }
  let folded := (composite.references.entries.foldlM (mergeSchema (fieldsWithin depth))
    opening).run store
  let noted := folded.2.note (.merged folded.1.schemas.length folded.1.fields.length
    folded.1.generation)
  have run : (merge (fieldsWithin depth) id composite).run store =
      (folded.1, noted.setKind id (.composite { composite with merged := folded.1 })) := rfl
  have middle : before.Traceless during origin noted :=
    (Preserves.foldlM (preserves_mergeSchema (fun notice _ noted => noted.noted notice) each) _
      opening store traceless).noted _
  have looked : store.Observed folded.2 :=
    Observes.foldlM (observes_mergeSchema (observes_fieldsWithin depth)) _ opening store
  rcases looked.sameDeclared.compositeAt? found with ⟨merged, stillFound⟩
  have notedFound : noted.compositeAt? id = some { composite with merged } := stillFound
  have indexed := (indexed_merge (indexed_fieldsWithin depth) id composite traceless.indexed).1
  refine traceless.steady steady indexed
    fun other first firstFound free firstOutdated merges later laterFound now => ?_
  rw [run, Store.compositeAt?_setKind_composite notedFound] at laterFound
  split at laterFound
  next same =>
    subst same
    rcases traceless.plain.compositeAt? firstFound with ⟨requested, shown, equal⟩
    cases equal.symm.trans found
    cases laterFound
    exact start.fields_merge traceless { first with requested, merged := shown } merges depth other
  next => exact middle.merged other first firstFound free firstOutdated merges later laterFound now

theorem traceless_fieldsWithin (start : before.Traceless during before before) (depth : Nat) :
    ∀ id, Preserves (before.Traceless during origin) (fieldsWithin depth id) := by
  induction depth using Nat.strongRecOn with
  | _ depth induction =>
      intro id store traceless
      rcases run_fieldsWithin depth id store with ⟨_, _, run⟩ | ⟨_, _, _, run⟩ |
        ⟨composite, less, found, outdated, rfl, run⟩ | ⟨_, _, _, _, run⟩ | run
      all_goals rw [run]
      · exact traceless
      · exact traceless
      · exact traceless_merge start (induction less (Nat.lt_succ_self less)) traceless found
          outdated
      · exact traceless.noted _
      · exact traceless

theorem traceless_snapshotOf (start : before.Traceless during before before) (id : TypeId) :
    Preserves (before.Traceless during origin) (snapshotOf id) := by
  intro store traceless
  cases found : store.compositeAt? id with
  | none =>
      have absent : (store.type? id).bind DocumentType.composite? = none := found
      simp only [snapshotOf, run_bind, run_type?, absent]
      exact traceless
  | some composite =>
      rw [run_snapshotOf found]
      split
      · exact traceless
      next outdated =>
        exact traceless_merge start (traceless_fieldsWithin start _) traceless found
          (eq_false_of_ne_true outdated)

theorem traceless_lookUp (start : before.Traceless during before before) (id : TypeId)
    (name : String) : Preserves (before.Traceless during origin) (lookUp id name) := by
  intro store traceless
  cases complexFound : store.complexAt? id with
  | some complex =>
      rw [run_lookUp_complex complexFound]
      exact traceless.bare (.looked complexFound name) (bare_setKind_lookUp complexFound name)
  | none =>
      cases found : store.compositeAt? id with
      | some composite =>
          rw [run_lookUp_composite found]
          exact traceless_snapshotOf start id store traceless
      | none =>
          rw [run_lookUp_plain complexFound found]
          exact traceless

theorem traceless_primitiveOf (id : TypeId) :
    Preserves (before.Traceless during origin) (primitiveOf id) := by
  intro store traceless
  rcases run_primitiveOf id store with ⟨trail, primitive, finds, run⟩ | ⟨run, -⟩
  · rw [run]
    exact traceless.steady_of_compositeAt? (.recalled finds)
      (store.compositeAt?_rememberAll trail primitive)
  · rw [run]
    exact traceless

/-- No read leaves a trace. -/
theorem keptByReads_traceless (start : before.Traceless during before before) :
    KeptByReads (before.Traceless during origin) where
  note notice _ traceless := traceless.noted notice
  lookUp := traceless_lookUp start
  snapshotOf := traceless_snapshotOf start
  primitiveOf := traceless_primitiveOf
  fieldsOf id store traceless :=
    traceless_fieldsWithin start (store.types.size + 1) id store traceless
  topLevelField name store traceless :=
    traceless.bare (observes_topLevelField name store) (topLevelField_eq traceless.caches name).2

end Action
end DocumentTypes
