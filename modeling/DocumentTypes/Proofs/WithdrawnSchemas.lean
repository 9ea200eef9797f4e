import DocumentTypes.Proofs.SteadyPaths

/-! # Withdrawn schemas

To register a schema under a free name and to remove it again leaves all tables as they were,
and every facet shows what it showed, whatever has been read in between. Paths lead to the
fields to which they led, if their way is steady. -/

namespace DocumentTypes

theorem Registry.mem_held_of_erased {registry : Registry} {name : TypeName} {schema : String}
    {qualifiers : Table String String} {id : TypeId}
    (member : id ∈ ({ registry with
      types := registry.types.erase name
      schemas := registry.schemas.erase schema
      qualifiers
      fieldLookups := .empty } : Registry).held) : id ∈ registry.held := by
  simp only [held, List.mem_append] at member ⊢
  rcases member with ((inTypes | inSchemas) | inFacets) | none
  · exact .inl (.inl (.inl (Table.mem_values_of_erase inTypes)))
  · exact .inl (.inl (.inr (Table.mem_values_of_erase inSchemas)))
  · exact .inl (.inr inFacets)
  · cases none

namespace Store

variable {before during store after : Store} {id holder : TypeId} {schema : String}

/-! ## Facets are asked -/

/-- The facets that mention a schema are asked to merge again, as often as they are
registered, and nothing else happens to types. -/
structure Prompted (schema : String) (before after : Store) : Prop where
  size_eq : after.types.size = before.types.size
  type?_eq : ∀ id, after.type? id = (before.type? id).map
    (DocumentType.asked schema (before.registry.facets.values.count id))

namespace Prompted

theorem samePlain (prompted : Prompted schema before after) : before.SamePlain after := by
  intro id
  rw [prompted.type?_eq, Option.map_map]
  congr 1
  funext type
  exact DocumentType.plain_asked schema _ type

theorem holdsType_eq (prompted : Prompted schema before after) (holder id : TypeId) :
    after.holdsType holder id = before.holdsType holder id := by
  have held (type : DocumentType) (count : Nat) : (type.asked schema count).held = type.held :=
    DocumentType.part_askedAll DocumentType.held (fun _ _ _ _ _ => rfl) [schema] count type
  rw [holdsType, prompted.type?_eq, Option.any_map, holdsType]
  congr 1
  funext type
  exact congrArg (·.contains id) (held type _)

theorem compositeAt?_eq (prompted : Prompted schema before after)
    (free : id ∉ before.registry.facets.values) :
    after.compositeAt? id = before.compositeAt? id := by
  rw [compositeAt?, prompted.type?_eq, List.count_eq_zero.mpr free, compositeAt?]
  cases before.type? id with
  | none => rfl
  | some type => rw [Option.map_some, DocumentType.asked_zero]

end Prompted

theorem mergedAsBefore_of_compositeAt?
    (free : ∀ id, id ∉ before.registry.facets.values →
      store.compositeAt? id = before.compositeAt? id) :
    before.MergedAsBefore during store := by
  intro id composite found isFree outdated _ later laterFound now
  cases (free id isFree).symm.trans laterFound |>.symm.trans found
  rw [outdated] at now
  cases now

/-- To be back is to have the tables of the beginning, if nothing more is held than on the
way. -/
theorem Traceless.back (traceless : before.Traceless during during store)
    (prompted : Prompted schema store after) (tables : before.SameTables after)
    (roots : ∀ id ∈ after.roots, id ∈ store.roots) (used : after.Used)
    (facets : store.registry.facets = before.registry.facets) :
    before.Traceless during before after := by
  have free {id : TypeId} (isFree : id ∉ before.registry.facets.values) :
      after.compositeAt? id = store.compositeAt? id :=
    prompted.compositeAt?_eq (facets ▸ isFree)
  have alive {id : TypeId} (alive : after.isAlive id = true) : store.isAlive id = true :=
    isAlive_mono (Nat.le_of_eq prompted.size_eq) roots
      (fun holder held holds => prompted.holdsType_eq holder held ▸ holds) alive
  exact {
    origin_eq := .inl rfl
    plain := traceless.plain.trans prompted.samePlain
    tables
    roots := fun _ member => tables.roots_bare_eq ▸ member
    alive := fun id isAlive => traceless.alive id (alive isAlive)
    caches := used.cachesRight
    facets := used.facetsCurrent
    indexed := used.indexed
    current := fun id composite found isFree now =>
      (free isFree).trans (traceless.current id composite found isFree now)
    merged := fun id composite found isFree outdated merges later laterFound =>
      traceless.merged id composite found isFree outdated merges later
        ((free isFree).symm.trans laterFound) }

/-! ## A schema more -/

/-- A complex type has become a schema, under a name and with a qualifier that were free. -/
structure Joined (before : Store) (id : TypeId) (type : DocumentType) (complex : ComplexType)
    (during : Store) : Prop where
  found : before.type? id = some type
  isComplex : type.complex? = some complex
  unregistered : before.registry.schemas.get? type.name.name = none
  unnamed : before.registry.types.get? type.name = none
  unowned : complex.space.qualifier = "" ∨
    before.registry.qualifiers.get? complex.space.qualifier = none
  prompted : Prompted type.name.name before during
  holdings_eq : during.holdings = before.holdings
  registryId_eq : during.registryId = before.registryId
  types_eq : during.registry.types = before.registry.types.put type.name id
  schemas_eq : during.registry.schemas = before.registry.schemas.put type.name.name id
  facets_eq : during.registry.facets = before.registry.facets
  qualifier_eq : ∀ qualifier, during.registry.qualifiers.get? qualifier =
    if complex.space.qualifier ≠ "" ∧ complex.space.qualifier = qualifier then
      some type.name.name
    else before.registry.qualifiers.get? qualifier

theorem OwnersDeclare.filter_keepsQualifier (declare : before.OwnersDeclare)
    (unregistered : before.registry.schemas.get? schema = none)
    (declared : String → Option String) (qualifier : String) :
    (before.registry.qualifiers.get? qualifier).filter
        (keepsQualifier [schema] declared qualifier) =
      before.registry.qualifiers.get? qualifier := by
  cases owned : before.registry.qualifiers.get? qualifier with
  | none => rfl
  | some owner =>
      rw [Option.filter_some, if_pos]
      refine keepsQualifier_of_ne fun same => ?_
      have declares := (declare qualifier owner owned).2
      rw [declaredQualifier?, same, unregistered] at declares
      cases declares

theorem joined_registerSchema (declare : before.OwnersDeclare) {type : DocumentType}
    {complex : ComplexType} (found : before.type? id = some type)
    (isComplex : type.complex? = some complex)
    (unregistered : before.registry.schemas.get? type.name.name = none)
    (unnamed : before.registry.types.get? type.name = none)
    (unowned : complex.space.qualifier = "" ∨
      before.registry.qualifiers.get? complex.space.qualifier = none) :
    ∃ during, (Attempt.registerSchema id).run.run before = (.ok (), during) ∧
      before.Joined id type complex during := by
  have kind : type.kind = .complex complex := by
    rcases type with ⟨name, base, flags, kind⟩
    cases kind <;> cases isComplex
    rfl
  rcases Action.run_registerComplex id type.name complex.space before with
    ⟨types, notices, qualifiers, run, size, asked, qualified⟩
  refine ⟨_, Attempt.run_registerSchema found kind, ?_⟩
  rw [run]
  refine ⟨found, isComplex, unregistered, unnamed, unowned, ⟨size, asked⟩, rfl, rfl, rfl, rfl, rfl,
    fun qualifier => ?_⟩
  rw [← declare.filter_keepsQualifier unregistered before.declaredQualifier? qualifier]
  exact qualified qualifier

namespace Joined

variable {type : DocumentType} {complex : ComplexType}

theorem roots_bare (joined : before.Joined id type complex during) {root : TypeId}
    (member : root ∈ before.bare.roots) : root ∈ during.bare.roots := by
  simp only [bare_roots_eq, joined.types_eq, joined.schemas_eq, joined.facets_eq, joined.holdings_eq,
    List.mem_append] at member ⊢
  exact member.imp_left <| Or.imp_left <| Or.imp_left <| Or.imp
    (Table.mem_values_put_of_absent joined.unnamed id)
    (Table.mem_values_put_of_absent joined.unregistered id)

theorem isAlive (joined : before.Joined id type complex during) (right : before.CachesRight)
    {other : TypeId} (alive : before.isAlive other = true) : during.isAlive other = true := by
  rw [← isAlive_bare right] at alive
  refine isAlive_mono ?_ (fun root member => roots_of_bare (joined.roots_bare member))
    (fun holder held holds => ?_) alive
  · rw [joined.prompted.size_eq]
    simp [bare, stripped]
  · rwa [joined.prompted.holdsType_eq, ← holdsType_bare]

theorem start (joined : before.Joined id type complex during) (used : before.Used) :
    before.Traceless during before before where
  origin_eq := .inl rfl
  plain := .refl before
  tables := .refl before
  roots _ member := member
  alive _ := joined.isAlive used.cachesRight
  caches := used.cachesRight
  facets := used.facetsCurrent
  indexed := used.indexed
  current _ _ found _ _ := found
  merged := mergedAsBefore_of_compositeAt? fun _ _ => rfl

theorem entered (joined : before.Joined id type complex during) (used : during.Used) :
    before.Traceless during during during where
  origin_eq := .inr rfl
  plain := joined.prompted.samePlain
  tables := .refl during
  roots _ member := joined.roots_bare member
  alive _ alive := alive
  caches := used.cachesRight
  facets := used.facetsCurrent
  indexed := used.indexed
  current _ _ found free _ := (joined.prompted.compositeAt?_eq free).trans found
  merged := mergedAsBefore_of_compositeAt? fun _ free => joined.prompted.compositeAt?_eq free

/-! ## The schema is given up -/

theorem registered (joined : before.Joined id type complex during)
    (traceless : before.Traceless during during store) :
    store.registry.schemas.get? type.name.name = some id := by
  rw [traceless.tables.schemas_eq, joined.schemas_eq, Table.get?_put, if_pos rfl]

theorem filter_keepsQualifier (joined : before.Joined id type complex during)
    (declare : before.OwnersDeclare) (traceless : before.Traceless during during store)
    (qualifier : String) :
    (store.registry.qualifiers.get? qualifier).filter
        (keepsQualifier [type.name.name] store.declaredQualifier? qualifier) =
      before.registry.qualifiers.get? qualifier := by
  rw [traceless.tables.qualifier_eq, joined.qualifier_eq]
  split
  next claimed =>
    rcases claimed with ⟨given, rfl⟩
    have complexFound : before.complexAt? id = some complex := by
      rw [complexAt?, joined.found, Option.bind_some, joined.isComplex]
    rcases traceless.plain.complexAt? complexFound with ⟨lookups, later⟩
    have declared : store.declaredQualifier? type.name.name = some complex.space.qualifier :=
      (declaredQualifier?_eq_some_iff given).mpr
        ⟨id, _, joined.registered traceless, later, rfl⟩
    rw [joined.unowned.resolve_left given, Option.filter_some, if_neg]
    simp [keepsQualifier, declared]
  next => exact declare.filter_keepsQualifier joined.unregistered _ qualifier

/-- To remove the schema on the way is to be back. -/
theorem run_unregisterSchema (joined : before.Joined id type complex during)
    (declare : before.OwnersDeclare) (used : store.Used)
    (traceless : before.Traceless during during store) :
    ∃ after, (Action.unregisterSchema type.name.name).run store = (true, after) ∧
      before.Traceless during before after := by
  have removed : (Operation.perform (.unregisterSchema type.name.name) store).Used :=
    used.performed trivial
  rcases Action.run_unregisterSchema (joined.registered traceless) with
    ⟨types, notices, qualifiers, run, size, asked, qualified⟩
  rw [Operation.perform, run] at removed
  have home : (store.type? id).elim "" (fun type => type.name.schema) = type.name.schema := by
    rcases traceless.plain.type? joined.found with ⟨later, laterFound, plain⟩
    rw [laterFound]
    exact congrArg (·.name.schema) plain
  have facets := traceless.tables.facets_eq.trans joined.facets_eq
  have typesErased : store.registry.types.erase ⟨(store.type? id).elim ""
      fun type => type.name.schema, type.name.name⟩ = before.registry.types := by
    rw [home, traceless.tables.types_eq, joined.types_eq]
    exact Table.erase_put joined.unnamed id
  have schemasErased : store.registry.schemas.erase type.name.name = before.registry.schemas := by
    rw [traceless.tables.schemas_eq, joined.schemas_eq, Table.erase_put joined.unregistered]
  refine ⟨_, run, traceless.back ⟨size, asked⟩ ⟨?_, ?_, typesErased, schemasErased, facets, ?_⟩ ?_
    removed facets⟩
  · exact traceless.tables.holdings_eq.trans joined.holdings_eq
  · exact traceless.tables.registryId_eq.trans joined.registryId_eq
  · exact fun qualifier =>
      (qualified qualifier).trans (joined.filter_keepsQualifier declare traceless qualifier)
  · exact fun root member => (List.mem_append.mp member).elim
      (fun inRegistry => List.mem_append_left _ (Registry.mem_held_of_erased inRegistry))
      (List.mem_append_right _)

end Joined

/-- To remove a schema undoes its registration, whatever is read in between: all tables
answer as before, and so do the facets. A path leads where it led, from the registry or
inside a facet, if it goes by types that show the same and references that mean the same. -/
theorem unregisterSchema_undoes_registerSchema (used : store.Used) {type : DocumentType}
    {complex : ComplexType} (found : store.type? id = some type)
    (isComplex : type.complex? = some complex)
    (unregistered : store.registry.schemas.get? type.name.name = none)
    (unnamed : store.registry.types.get? type.name = none)
    (unowned : complex.space.qualifier = "" ∨
      store.registry.qualifiers.get? complex.space.qualifier = none)
    (reads : List Read) :
    let registering := (Attempt.registerSchema id).run.run store
    let during := registering.2
    let removing := (Action.unregisterSchema type.name.name).run (during.afterReads reads)
    let after := removing.2
    registering.1 = .ok () ∧ removing.1 = true ∧
    (∀ name, after.registry.types.get? name = store.registry.types.get? name) ∧
    (∀ name, after.registry.schemas.get? name = store.registry.schemas.get? name) ∧
    (∀ qualifier, after.registry.schemaByQualifier? qualifier =
      store.registry.schemaByQualifier? qualifier) ∧
    (∀ name, after.registry.facets.get? name = store.registry.facets.get? name) ∧
    (∀ facet ∈ store.registry.facets.values,
      (∀ name, ((Action.lookUp facet name).run after).1 =
        ((Action.lookUp facet name).run store).1) ∧
      ((Action.fieldsOf facet).run after).1 = ((Action.fieldsOf facet).run store).1 ∧
      ∀ path, store.leadsSteadilyIn during facet path = true →
        ((Action.fieldAt facet path).run after).1 = ((Action.fieldAt facet path).run store).1) ∧
    ∀ path, store.leadsSteadilyTo during path = true →
      ((Action.registeredField path).run after).1 =
        ((Action.registeredField path).run store).1 := by
  rcases joined_registerSchema used.ownersDeclare found isComplex unregistered unnamed unowned with
    ⟨during, registered, joined⟩
  have duringUsed : (Operation.perform (.registerSchema id) store).Used := used.performed trivial
  rw [Operation.perform, registered] at duringUsed
  have start := joined.start used
  have last := (Action.keptByReads_traceless start).afterReads reads (joined.entered duringUsed)
  rcases joined.run_unregisterSchema used.ownersDeclare (duringUsed.afterReads reads) last with
    ⟨after, removed, back⟩
  rw [registered]
  dsimp only
  rw [removed]
  refine ⟨rfl, rfl, fun name => ?_, fun name => ?_, back.tables.schemaByQualifier?_eq, fun name => ?_,
    fun facet member => ⟨?_, ?_, fun path => ?_⟩, fun path => ?_⟩
  · rw [back.tables.types_eq]
  · rw [back.tables.schemas_eq]
  · rw [back.tables.facets_eq]
  · exact start.lookUp_congr back start (Traceless.showsSteadily_of_facet member)
  · exact start.fieldsOf_congr back start member
  · exact start.fieldAt_congr back start
  · exact start.registeredField_congr back start

/-- A facet that names two schemas shows the second one while that is registered, and the first
one again afterwards, also on the way of a path. -/
theorem facet_shows_again :
    let schema (name qualifier : String) : Blueprint := {
      name := ⟨name, name⟩
      body := .complex ⟨"", qualifier⟩ none [{ name := "title", valueType := .null }] }
    let store := following [
      .registerFacet "record" ["note", "dc"],
      .build {
        name := ⟨"album", "album"⟩
        body := .complex ⟨"", "a"⟩ none
          [{ name := "card", valueType := .named ⟨0⟩ ⟨"facets", "record"⟩ }] },
      .registerSchema ⟨9⟩,
      .build (schema "note" "n"),
      .registerSchema ⟨10⟩,
      .build (schema "dc" "d")]
    let during := ((Attempt.registerSchema ⟨11⟩).run.run store).2
    let after := ((Action.unregisterSchema "dc").run
      (during.afterReads [.registeredField "a:card/title"])).2
    let title (store : Store) := ((Action.registeredField "a:card/title").run store).1
    store.Used ∧ store.registry.schemas.get? "dc" = none ∧
    store.registry.types.get? ⟨"dc", "dc"⟩ = none ∧ store.registry.qualifiers.get? "d" = none ∧
    store.leadsSteadilyTo during "a:card/title" = true ∧
    (title store).map Field.owner = some ⟨10⟩ ∧ (title during).map Field.owner = some ⟨11⟩ ∧
    title after = title store ∧
    ((Action.lookUp ⟨8⟩ "title").run after).1 = ((Action.lookUp ⟨8⟩ "title").run store).1 := by
  intro schema store during after title
  have used : store.Used := used_following _ (by simp [Operation.Permitted])
  have unregistered : store.registry.schemas.get? "dc" = none := by decide +kernel
  have unnamed : store.registry.types.get? ⟨"dc", "dc"⟩ = none := by decide +kernel
  have unowned : store.registry.qualifiers.get? "d" = none := by decide +kernel
  have steady : store.leadsSteadilyTo during "a:card/title" = true := by decide +kernel
  have facet : ⟨8⟩ ∈ store.registry.facets.values := by decide +kernel
  have titles : (title store).map Field.owner = some ⟨10⟩ ∧
      (title during).map Field.owner = some ⟨11⟩ := by decide +kernel
  have named : (store.type? ⟨11⟩).map DocumentType.name = some ⟨"dc", "dc"⟩ := by decide +kernel
  have claims : ((store.type? ⟨11⟩).bind DocumentType.complex?).map
      (fun complex => complex.space.qualifier) = some "d" := by decide +kernel
  rcases Option.map_eq_some_iff.mp named with ⟨type, found, name⟩
  rcases Option.map_eq_some_iff.mp claims with ⟨complex, complexFound, qualifier⟩
  rw [found, Option.bind_some] at complexFound
  rcases unregisterSchema_undoes_registerSchema used found complexFound
    (by rw [name]; exact unregistered) (by rw [name]; exact unnamed)
    (.inr (by rw [qualifier]; exact unowned)) [.registeredField "a:card/title"] with
    ⟨-, -, -, -, -, -, facets, paths⟩
  rw [name] at facets paths
  exact ⟨used, unregistered, unnamed, unowned, steady, titles.1, titles.2, paths _ steady,
    (facets ⟨8⟩ facet).1 "title"⟩

/-- On the way of other paths a trace may be left. A composite that is no facet merges when it is
read, and is not asked to merge again when a schema goes. And what a facet showed when it was last
merged may have been all that kept a type alive to which a field leads back. -/
theorem unregisterSchema_leaves_trace :
    let title : FieldDeclaration := { name := "title", valueType := .null }
    let schema (name qualifier : String) (fields : List FieldDeclaration) : Blueprint := {
      name := ⟨name, name⟩
      body := .complex ⟨"", qualifier⟩ none fields }
    let isNew (store : Store) (id : TypeId) (name qualifier : String) : Prop :=
      (store.type? id).map DocumentType.name = some ⟨name, name⟩ ∧
      ((store.type? id).bind DocumentType.complex?).map (·.space.qualifier) = some qualifier ∧
      store.registry.schemas.get? name = none ∧ store.registry.types.get? ⟨name, name⟩ = none ∧
      store.registry.qualifiers.get? qualifier = none
    let back (store : Store) (id : TypeId) (name : String) (read : Read) : Store :=
      let during := ((Attempt.registerSchema id).run.run store).2
      ((Action.unregisterSchema name).run (during.afterReads [read])).2
    let owner (path : String) (store : Store) : Option TypeId :=
      ((Action.registeredField path).run store).1.map Field.owner
    let carded := following [
      .build { name := ⟨"s", "card"⟩, body := .composite [.schema ⟨0⟩ "dc"] },
      .build (schema "album" "a" [{ name := "card", valueType := .direct ⟨8⟩ ⟨"s", "card"⟩ }]),
      .registerSchema ⟨9⟩,
      .build (schema "dc" "d" [title])]
    let remade := following [
      .build (schema "t" "" [title]),
      .registerSchema ⟨8⟩,
      .registerFacet "f" ["t"],
      .snapshotOf ⟨9⟩,
      .build (schema "x" "x" [{ name := "y", valueType := .owner ⟨8⟩ ⟨"t", "t"⟩ }]),
      .registerSchema ⟨10⟩,
      .unregisterSchema "t",
      .build (schema "s" "" [])]
    (carded.Used ∧ isNew carded ⟨10⟩ "dc" "d" ∧
      owner "a:card/title" carded = none ∧
      owner "a:card/title" (back carded ⟨10⟩ "dc" (.registeredField "a:card/title")) = some ⟨10⟩) ∧
    (remade.Used ∧ isNew remade ⟨11⟩ "s" "" ∧
      owner "x:y/title" remade = some ⟨8⟩ ∧
      owner "x:y/title" (back remade ⟨11⟩ "s" (.snapshotOf ⟨9⟩)) = none) := by
  intro title schema isNew back owner carded remade
  have cardedUsed : carded.Used := used_following _ (by simp [Operation.Permitted])
  have remadeUsed : remade.Used := used_following _ (by simp [Operation.Permitted])
  exact ⟨⟨cardedUsed, by decide +kernel⟩, remadeUsed, by decide +kernel⟩

end Store
end DocumentTypes
