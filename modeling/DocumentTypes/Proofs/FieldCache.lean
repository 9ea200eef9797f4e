import DocumentTypes.Proofs.History
import DocumentTypes.Proofs.Simulation

/-! # The cache of top-level fields

The registry remembers the fields that paths begin with. Nobody can tell: a path means
what it would mean if nothing had been remembered. -/

namespace DocumentTypes

/-- The field that a path means, with the first segment looked up anew. -/
def Action.uncachedField (path : String) : Action (Option Field) := do
  match Path.segments (Path.canonical path) with
  | [] => return none
  | first :: rest =>
    match (← get).topLevel? first with
    | some field => walk field rest
    | none => return none

namespace ComplexType

variable {complex : ComplexType} {name : String} {field : Field}

theorem mem_of_find? (found : complex.find? name = some field) :
    field ∈ complex.fields.values := by
  unfold find? at found
  split at found
  next present =>
    cases found
    exact Table.mem_values_iff.mpr ⟨_, present⟩
  next =>
    split at found
    · cases found
    · exact List.mem_of_find?_eq_some found

theorem lookUp_snd
    (agree : ∀ name field, complex.lookups.get? name = some field →
      complex.find? name = some field) (name : String) :
    (complex.lookUp name).2 = complex.find? name := by
  unfold lookUp
  cases remembered : complex.lookups.get? name with
  | some field => exact (agree name field remembered).symm
  | none => cases complex.find? name <;> rfl

theorem lookups_lookUp
    (agree : ∀ name field, complex.lookups.get? name = some field →
      complex.find? name = some field) (name : String) :
    ∀ other field, (complex.lookUp name).1.lookups.get? other = some field →
      complex.find? other = some field := by
  intro other field
  unfold lookUp
  cases complex.lookups.get? name with
  | some _ => exact agree other field
  | none =>
      cases found : complex.find? name with
      | none => exact agree other field
      | some answer =>
          intro remembered
          rcases Table.of_get?_put remembered with ⟨rfl, rfl⟩ | old
          · exact found
          · exact agree other field old

theorem lookups_declareAll (declarations : List FieldDeclaration) (id : TypeId)
    (name : TypeName) (complex : ComplexType) (blank : complex.lookups = .empty) :
    (complex.declareAll id name declarations).lookups = .empty := by
  induction declarations generalizing complex with
  | nil => exact blank
  | cons declaration rest induction => exact induction _ rfl

end ComplexType

namespace Store

variable {before after store left right : Store}

/-! ## What is remembered is right -/

structure CachesRight (store : Store) : Prop where
  complex : store.SchemasComplex
  lookups : store.LookupsAgree
  remembered : ∀ name field, store.registry.fieldLookups.get? name = some field →
    store.topLevel? name = some field

namespace CachesRight

theorem of_empty (registry : store.registry = .empty) (lookups : store.LookupsAgree) :
    store.CachesRight := by
  refine ⟨?_, lookups, ?_⟩
  · intro name id registered
    rw [registry] at registered
    cases registered
  · intro name field remembered
    rw [registry] at remembered
    cases remembered

end CachesRight

theorem mem_of_topLevel? {name : String} {field : Field}
    (found : store.topLevel? name = some field) :
    ∃ schema id complex, store.registry.schemas.get? schema = some id ∧
      store.complexAt? id = some complex ∧ field ∈ complex.fields.values := by
  rcases Option.bind_eq_some_iff.mp found with ⟨id, means, inside⟩
  rcases Option.bind_eq_some_iff.mp inside with ⟨complex, complexFound, fieldFound⟩
  rcases Registry.schemas_of_schemaFor? means with ⟨schema, registered⟩
  exact ⟨schema, id, complex, registered, complexFound, ComplexType.mem_of_find? fieldFound⟩

theorem SchemasKept.topLevel?_eq (kept : before.SchemasKept after)
    (complex : before.SchemasComplex)
    (schemas : after.registry.schemas = before.registry.schemas)
    (qualifiers : after.registry.qualifiers = before.registry.qualifiers) (name : String) :
    after.topLevel? name = before.topLevel? name := by
  have means : after.registry.schemaFor? (QualifiedName.parse name "").qualifier =
      before.registry.schemaFor? (QualifiedName.parse name "").qualifier := by
    unfold Registry.schemaFor? Registry.schemaByQualifier?
    rw [schemas, qualifiers]
  unfold topLevel?
  dsimp only
  rw [means]
  cases found : before.registry.schemaFor? (QualifiedName.parse name "").qualifier with
  | none => rfl
  | some id =>
      rcases Registry.schemas_of_schemaFor? found with ⟨schema, registered⟩
      rcases complex schema id registered with ⟨type, typeFound⟩
      rcases kept id (Table.mem_values_iff.mpr ⟨schema, registered⟩) type typeFound with
        ⟨lookups, stays⟩
      simp only [Option.bind_some, typeFound, stays]
      rfl

namespace CachesRight

theorem of_kept (right : before.CachesRight) (kept : before.SchemasKept after)
    (schemas : after.registry.schemas = before.registry.schemas)
    (qualifiers : after.registry.qualifiers = before.registry.qualifiers)
    (lookups : after.LookupsAgree)
    (remembered : ∀ name field, after.registry.fieldLookups.get? name = some field →
      before.topLevel? name = some field) : after.CachesRight where
  complex := kept.schemasComplex right.complex schemas
  lookups := lookups
  remembered name field found := by
    rw [kept.topLevel?_eq right.complex schemas qualifiers]
    exact remembered name field found

theorem observed (right : before.CachesRight) (step : before.Observed after) :
    after.CachesRight := by
  induction step with
  | refl => exact right
  | trans _ _ first second => exact second (first right)
  | noted store notice =>
      exact right.of_kept (Observed.noted store notice).schemasKept rfl rfl right.lookups
        right.remembered
  | @remembered store name field correct =>
      have kept := (Observed.remembered correct).schemasKept
      refine right.of_kept kept rfl rfl right.lookups fun other answer found => ?_
      rcases Table.of_get?_put found with ⟨rfl, rfl⟩ | old
      · exact correct right.complex right.lookups
      · exact right.remembered other answer old
  | @looked store id complex complexFound name =>
      have kept := (Observed.looked complexFound name).schemasKept
      refine right.of_kept kept (by rw [registry_setKind]) (by rw [registry_setKind]) ?_
        (by rw [registry_setKind]; exact right.remembered)
      intro other type typeFound
      rw [complexAt?_setKind_complex complexFound] at typeFound
      by_cases same : other = id
      · rw [if_pos same] at typeFound
        cases typeFound
        intro key answer found
        rcases complex.lookUp_fst name with ⟨lookups, equal⟩
        have agrees := ComplexType.lookups_lookUp (right.lookups id complex complexFound) name
          key answer found
        rw [equal]
        exact agrees
      · rw [if_neg same] at typeFound
        exact right.lookups other type typeFound
  | @merged store id composite snapshot compositeFound revision shown =>
      have kept := (Observed.merged compositeFound revision shown).schemasKept
      refine right.of_kept kept (by rw [registry_setKind]) (by rw [registry_setKind]) ?_
        (by rw [registry_setKind]; exact right.remembered)
      intro other type typeFound
      rw [complexAt?_setKind_composite compositeFound] at typeFound
      exact right.lookups other type typeFound

theorem of_complexAt? (right : before.CachesRight)
    (complexes : ∀ id, after.complexAt? id = before.complexAt? id)
    (schemas : after.registry.schemas = before.registry.schemas)
    (qualifiers : after.registry.qualifiers = before.registry.qualifiers)
    (fieldLookups : after.registry.fieldLookups = before.registry.fieldLookups) :
    after.CachesRight := by
  refine right.of_kept (.of_complexAt? fun id _ => complexes id) schemas qualifiers ?_ ?_
  · intro id complex found
    rw [complexes] at found
    exact right.lookups id complex found
  · rw [fieldLookups]
    exact right.remembered

theorem lookupsAgree_built (right : store.CachesRight) (blueprint : Blueprint) :
    (store.push (blueprint.built store)).LookupsAgree := by
  intro id complex found
  rw [complexAt?_push] at found
  by_cases same : id = store.nextId
  · rw [if_pos same] at found
    have blank : complex.lookups = .empty := by
      rcases blueprint with ⟨name, base, flags, body⟩
      cases body <;> cases found
      exact ComplexType.lookups_declareAll _ _ _ _ rfl
    intro name field remembered
    rw [blank] at remembered
    cases remembered
  · rw [if_neg same] at found
    exact right.lookups id complex found

theorem changed (right : before.CachesRight) (step : before.Changed after) :
    after.CachesRight := by
  induction step with
  | trans _ _ first second => exact second (first right)
  | observed observed => exact right.observed observed
  | reported | typeRegistered | held | facetEntered =>
      exact right.of_complexAt? (fun _ => rfl) rfl rfl rfl
  | built store blueprint =>
      refine right.of_kept ?_ rfl rfl (right.lookupsAgree_built blueprint) right.remembered
      exact fun id _ complex found => ⟨complex.lookups, complexAt?_push_of_some found⟩
  | @declared store declaring complex found unregistered name declaration =>
      refine right.of_kept (.of_complexAt? ?_) (by rw [registry_setKind])
        (by rw [registry_setKind]) ?_ (by rw [registry_setKind]; exact right.remembered)
      · intro id member
        rw [complexAt?_setKind_complex found, if_neg]
        exact fun same => unregistered (same ▸ member)
      · intro id other otherFound
        rw [complexAt?_setKind_complex found] at otherFound
        by_cases same : id = declaring
        · rw [if_pos same] at otherFound
          cases otherFound
          intro _ _ remembered
          cases remembered
        · rw [if_neg same] at otherFound
          exact right.lookups id other otherFound
  | schemaChanged schema registry elsewhere complex _ _ forgotten asked =>
      refine ⟨right.complex.schemaChanged elsewhere complex asked, ?_, ?_⟩
      · intro id type found
        rw [asked.complexAt?_eq] at found
        exact right.lookups id type found
      · intro name field remembered
        rw [asked.registry_eq] at remembered
        change registry.fieldLookups.get? name = some field at remembered
        rw [forgotten] at remembered
        cases remembered
  | schemaAdded found | invalidated found =>
      exact right.of_complexAt? (complexAt?_setKind_composite found) (by rw [registry_setKind])
        (by rw [registry_setKind]) (by rw [registry_setKind])
  | dropped => exact .of_empty rfl right.lookups

end CachesRight

theorem Reachable.cachesRight (reachable : store.Reachable) : store.CachesRight := by
  refine CachesRight.changed (.of_empty rfl ?_) reachable.changed
  intro id complex found
  cases found

/-! ## What is remembered keeps nothing alive -/

/-- A store without notices and without anything remembered. -/
def bare (store : Store) : Store := store.stripped .bare

theorem compositeAt?_bare (store : Store) (id : TypeId) :
    store.bare.compositeAt? id = store.compositeAt? id := by
  unfold bare compositeAt?
  rw [type?_stripped]
  rcases store.type? id with _ | ⟨name, base, flags, kind⟩
  · rfl
  · cases kind <;> rfl

theorem held_bare (type : DocumentType) :
    ({ type with kind := type.kind.bare } : DocumentType).held = type.held := by
  rcases type with ⟨name, base, flags, kind⟩
  cases kind <;> rfl

theorem holdsType_bare (store : Store) (holder id : TypeId) :
    store.bare.holdsType holder id = store.holdsType holder id := by
  unfold holdsType bare
  rw [type?_stripped]
  cases store.type? holder with
  | none => rfl
  | some type =>
      simp only [Option.map_some, Option.any_some, held_bare]

theorem mem_roots (right : store.CachesRight) {id : TypeId} (root : id ∈ store.roots) :
    id ∈ store.bare.roots ∨
      ∃ name schema, store.registry.schemas.get? name = some schema ∧
        store.holdsType schema id = true := by
  have split : id ∈ store.bare.roots ∨
      ∃ field ∈ store.registry.fieldLookups.values, id ∈ field.held := by
    have places := root
    simp only [roots, Registry.held, List.mem_append, List.mem_flatMap] at places ⊢
    rcases places with (((types | schemas) | facets) | cached) | held
    · exact .inl (.inl (.inl (.inl (.inl types))))
    · exact .inl (.inl (.inl (.inl (.inr schemas))))
    · exact .inl (.inl (.inl (.inr facets)))
    · exact .inr cached
    · exact .inl (.inr held)
  rcases split with bare | ⟨field, remembered, holds⟩
  · exact .inl bare
  · rcases Table.mem_values_iff.mp remembered with ⟨name, found⟩
    rcases mem_of_topLevel? (right.remembered name field found) with
      ⟨schema, schemaId, complex, registered, complexFound, member⟩
    refine .inr ⟨schema, schemaId, registered, ?_⟩
    rcases type_of_complexAt? complexFound with ⟨type, typeFound, kind⟩
    simp only [holdsType, typeFound, Option.any_some, DocumentType.held, kind,
      List.contains_iff_mem, List.mem_append, List.mem_flatMap]
    exact .inr ⟨field, member, holds⟩

theorem roots_of_bare {id : TypeId} (root : id ∈ store.bare.roots) : id ∈ store.roots := by
  have places := root
  simp only [roots, Registry.held, List.mem_append] at places ⊢
  rcases places with (((types | schemas) | facets) | cached) | held
  · exact .inl (.inl (.inl (.inl types)))
  · exact .inl (.inl (.inl (.inr schemas)))
  · exact .inl (.inl (.inr facets))
  · cases cached
  · exact .inr held

theorem supported_bare (right : store.CachesRight) {candidates : List TypeId}
    (covered : ∀ name id, store.registry.schemas.get? name = some id → id ∈ candidates) :
    store.bare.supported candidates = store.supported candidates := by
  apply List.filter_congr
  intro id _
  simp only [holdsType_bare]
  rw [Bool.eq_iff_iff]
  simp only [Bool.or_eq_true, List.contains_iff_mem, List.any_eq_true]
  constructor
  · rintro (root | supported)
    · exact .inl (roots_of_bare root)
    · exact .inr supported
  · rintro (root | supported)
    · rcases mem_roots right root with bare | ⟨name, schema, registered, holds⟩
      · exact .inl bare
      · exact .inr ⟨schema, covered name schema registered, holds⟩
    · exact .inr supported

/-- Registered schemas are supported in every round, so the candidates stay the same. -/
theorem survivors_bare (right : store.CachesRight) (rounds : Nat) {candidates : List TypeId}
    (covered : ∀ name id, store.registry.schemas.get? name = some id → id ∈ candidates) :
    store.bare.survivors rounds candidates = store.survivors rounds candidates := by
  induction rounds generalizing candidates with
  | zero => rfl
  | succ rounds induction =>
      rw [survivors, survivors, supported_bare right covered]
      split
      · rfl
      · refine induction fun name id registered => ?_
        refine List.mem_filter.mpr ⟨covered name id registered, ?_⟩
        have root : id ∈ store.roots := by
          simp only [roots, Registry.held, List.mem_append]
          exact .inl (.inl (.inl (.inr (Table.mem_values_iff.mpr ⟨name, registered⟩))))
        rw [List.contains_iff_mem.mpr root, Bool.true_or]

theorem isAlive_bare (right : store.CachesRight) (id : TypeId) :
    store.bare.isAlive id = store.isAlive id := by
  have size : store.bare.types.size = store.types.size := by simp [bare, stripped]
  have ids : store.bare.ids = store.ids := by rw [Store.ids, Store.ids, size]
  unfold isAlive
  rw [size, ids, survivors_bare right]
  intro name schema registered
  rcases right.complex name schema registered with ⟨complex, found⟩
  have bound := type?_isSome_iff.mp (isSome_of_complexAt? found)
  exact List.mem_map.mpr ⟨schema.position, List.mem_range.mpr bound, rfl⟩

theorem resolve_bare (right : store.CachesRight) (reference : TypeRef) :
    store.bare.resolve reference = store.resolve reference := by
  cases reference with
  | null | named | schema | direct => rfl
  | owner => simp only [resolve, isAlive_bare right]

/-! ## Stores that differ in what is remembered -/

/-- Two stores differ at most in notices and in what they remember, rightly. -/
structure AlikeBare (left right : Store) : Prop where
  bare_eq : left.bare = right.bare
  left : left.CachesRight
  right : right.CachesRight

theorem AlikeBare.kind (alike : AlikeBare left right) (id : TypeId) :
    TypeKind.Alike ((left.type? id).map DocumentType.kind)
      ((right.type? id).map DocumentType.kind) := by
  apply TypeKind.Alike.of_bare
  have types := congrArg (fun store : Store => (store.type? id).map DocumentType.kind)
    alike.bare_eq
  simpa [bare, type?_stripped, Function.comp_def] using types

theorem AlikeBare.looked (alike : AlikeBare left right) {id : TypeId}
    {complex other : ComplexType} (name : String) (leftFound : left.complexAt? id = some complex)
    (rightFound : right.complexAt? id = some other) :
    (complex.lookUp name).2 = (other.lookUp name).2 ∧
      AlikeBare (left.setKind id (.complex (complex.lookUp name).1))
        (right.setKind id (.complex (other.lookUp name).1)) := by
  have sameBut : ∃ lookups, other = { complex with lookups } := by
    have kinds := alike.kind id
    rw [kind_of_complexAt? leftFound, kind_of_complexAt? rightFound] at kinds
    cases kinds with
    | same => exact ⟨complex.lookups, rfl⟩
    | complex _ lookups => exact ⟨lookups, rfl⟩
  rcases sameBut with ⟨lookups, rfl⟩
  rcases complex.lookUp_fst name with ⟨leftLookups, leftEqual⟩
  rcases ComplexType.lookUp_fst { complex with lookups } name with ⟨rightLookups, rightEqual⟩
  refine ⟨?_, ?_, ?_, ?_⟩
  · rw [ComplexType.lookUp_snd (alike.left.lookups id _ leftFound),
      ComplexType.lookUp_snd (alike.right.lookups id _ rightFound)]
    rfl
  · unfold bare
    rw [stripped_setKind, stripped_setKind, leftEqual, rightEqual]
    exact congrArg (fun store : Store => store.setKind id _) alike.bare_eq
  · exact alike.left.observed (.looked leftFound name)
  · exact alike.right.observed (.looked rightFound name)

theorem likeness_bare : Likeness AlikeBare where
  size_eq alike := by
    have sizes := congrArg (fun store : Store => store.types.size) alike.bare_eq
    simpa [bare, stripped] using sizes
  resolve_eq alike reference := by
    rw [← resolve_bare alike.left, ← resolve_bare alike.right, alike.bare_eq]
  kind alike id := alike.kind id
  noted alike notice :=
    ⟨alike.bare_eq, alike.left.observed (.noted _ notice), alike.right.observed (.noted _ notice)⟩
  merged alike _ _ _ leftFound rightFound := by
    refine ⟨?_, ?_, ?_⟩
    · unfold bare
      rw [stripped_setKind, stripped_setKind]
      exact congrArg (fun store : Store => store.setKind _ _) alike.bare_eq
    · exact alike.left.of_complexAt? (complexAt?_setKind_composite leftFound)
        (by rw [registry_setKind]) (by rw [registry_setKind]) (by rw [registry_setKind])
    · exact alike.right.of_complexAt? (complexAt?_setKind_composite rightFound)
        (by rw [registry_setKind]) (by rw [registry_setKind]) (by rw [registry_setKind])
  looked alike _ _ _ name leftFound rightFound := alike.looked name leftFound rightFound

end Store

namespace Action

/-! ## Paths -/

variable {store : Store}

theorem bare_setKind_lookUp {id : TypeId} {complex : ComplexType}
    (found : store.complexAt? id = some complex) (name : String) :
    (store.setKind id (.complex (complex.lookUp name).1)).bare = store.bare := by
  rcases Store.type_of_complexAt? found with ⟨type, typeFound, kind⟩
  rcases complex.lookUp_fst name with ⟨lookups, equal⟩
  apply Store.stripped_setKind_of_eq typeFound
  rw [kind, equal]
  rfl

theorem topLevelField_eq (right : store.CachesRight) (name : String) :
    ((topLevelField name).run store).1 = store.topLevel? name ∧
      ((topLevelField name).run store).2.bare = store.bare := by
  simp only [topLevelField, run_bind, run_get]
  cases cached : store.registry.fieldLookups.get? name with
  | some field => exact ⟨(right.remembered name field cached).symm, rfl⟩
  | none =>
      simp only [run_bind, run_get, Store.topLevel?]
      cases means : store.registry.schemaFor? (QualifiedName.parse name "").qualifier with
      | none => exact ⟨rfl, rfl⟩
      | some schema =>
          rcases Registry.schemas_of_schemaFor? means with ⟨schemaName, registered⟩
          rcases right.complex schemaName schema registered with ⟨complex, found⟩
          have answer := ComplexType.lookUp_snd (right.lookups schema complex found)
            (QualifiedName.parse name "").localName
          have same := bare_setKind_lookUp found (QualifiedName.parse name "").localName
          simp only [run_bind, run_lookUp_complex found, answer, Option.bind_some, found]
          cases complex.find? (QualifiedName.parse name "").localName with
          | none => exact ⟨rfl, same⟩
          | some field => exact ⟨rfl, same⟩

theorem uncachedField_forgotten (right : store.CachesRight) (path : String) :
    ((uncachedField path).run store).1 = ((uncachedField path).run (store.setRegistry
      { store.registry with fieldLookups := .empty })).1 := by
  unfold uncachedField
  generalize Path.segments (Path.canonical path) = segments
  cases segments with
  | nil => rfl
  | cons first rest =>
      let forgotten := store.setRegistry { store.registry with fieldLookups := .empty }
      have rightForgotten : forgotten.CachesRight :=
        ⟨right.complex, right.lookups, fun _ _ remembered => by cases remembered⟩
      have same : forgotten.topLevel? first = store.topLevel? first := rfl
      rw [run_bind, run_bind, run_get, run_get, same]
      cases store.topLevel? first with
      | none => rfl
      | some field =>
          exact (respects_walk Store.likeness_bare rest field store forgotten
            ⟨rfl, right, rightForgotten⟩).1

/-- The cache of top-level fields is invisible: after any history, a path means the field
that it means without the cache, with the cache there or forgotten. -/
theorem registeredField_eq_uncached (reachable : store.Reachable) (path : String) :
    ((registeredField path).run store).1 = ((uncachedField path).run store).1 ∧
    ((registeredField path).run store).1 = ((uncachedField path).run (store.setRegistry
      { store.registry with fieldLookups := .empty })).1 := by
  have right := reachable.cachesRight
  have uncached : ((registeredField path).run store).1 = ((uncachedField path).run store).1 := by
    unfold registeredField uncachedField
    generalize Path.segments (Path.canonical path) = segments
    cases segments with
    | nil => rfl
    | cons first rest =>
        have rightAfter := right.observed (observes_topLevelField first store)
        rcases topLevelField_eq right first with ⟨answer, same⟩
        simp only [run_bind, run_get, answer]
        cases store.topLevel? first with
        | none => rfl
        | some field =>
            exact (respects_walk Store.likeness_bare rest field _ _ ⟨same, rightAfter, right⟩).1
  exact ⟨uncached, uncached.trans (uncachedField_forgotten right path)⟩

/-- A field inside of another one that was looked up is found where the schema leads that took the
qualifier over. -/
theorem registeredField_after_redefinition :
    let card (schema : String) : Blueprint := {
      name := ⟨schema, "card"⟩
      body := .complex ⟨"", ""⟩ none [{ name := "title", valueType := .null }] }
    let schema (name : String) (card : TypeId) : Blueprint := {
      name := ⟨name, name⟩
      body := .complex ⟨"", "d"⟩ none
        [{ name := "card", valueType := .direct card ⟨name, "card"⟩ }] }
    let lookedUp := Operation.perform (.registeredField "/d:card/title")
      (Operation.perform (.registerSchema ⟨9⟩) (Operation.perform (.build (schema "dc" ⟨8⟩))
        (Operation.perform (.build (card "dc")) .initial)))
    let store := Operation.perform (.registerSchema ⟨11⟩)
      (Operation.perform (.build (schema "terms" ⟨10⟩))
        (Operation.perform (.build (card "terms")) lookedUp))
    store.Reachable ∧
    ((registeredField "/d:card/title").run lookedUp).1.map Field.owner = some ⟨8⟩ ∧
    ((registeredField "/d:card/title").run store).1.map Field.owner = some ⟨10⟩ ∧
    ((registeredField "/d:card/title").run store).1 =
      ((uncachedField "/d:card/title").run store).1 ∧
    ((registeredField "/d:card/title").run store).1 = ((uncachedField "/d:card/title").run
      (store.setRegistry { store.registry with fieldLookups := .empty })).1 := by
  intro card schema lookedUp store
  have before : lookedUp.Reachable :=
    .performed (.performed (.performed (.performed .initial trivial) trivial) trivial) trivial
  have reachable : store.Reachable :=
    .performed (.performed (.performed before trivial) trivial) trivial
  have earlier : ((registeredField "/d:card/title").run lookedUp).1.map Field.owner =
      some ⟨8⟩ := by decide +kernel
  have owner : ((registeredField "/d:card/title").run store).1.map Field.owner = some ⟨10⟩ := by
    decide +kernel
  exact ⟨reachable, earlier, owner, registeredField_eq_uncached reachable "/d:card/title"⟩

end Action
end DocumentTypes
