import DocumentTypes.Proofs.Entering

/-! # The outcome of a plan

A plan registers types, then schemas, then facets, one after the other. Each of them gets
the next id, and what is in the tables afterwards is decided by the last one of each name.
So the store that a plan leads to can be told from the list of what it registers. -/

namespace DocumentTypes

inductive Registration
  | type (blueprint : Blueprint)
  | schema (blueprint : Blueprint)
  | facet (name : String) (schemas : List String)

namespace Registration

def blueprint (registryId : RegistryId) : Registration → Blueprint
  | type blueprint | schema blueprint => blueprint
  | facet name schemas => .facet registryId name schemas

def typeName : Registration → TypeName
  | type blueprint | schema blueprint => blueprint.name
  | facet name _ => ⟨facetSchema, name⟩

def typeName? (registration : Registration) : Option TypeName := some registration.typeName

def schemaName? : Registration → Option String
  | schema blueprint => some blueprint.name.name
  | type _ | facet .. => none

def facetName? : Registration → Option String
  | facet name _ => some name
  | type _ | schema _ => none

/-- The qualifier that a schema claims, with the name of the schema. -/
def claim? : Registration → Option (String × String)
  | schema ⟨name, _, _, .complex space _ _⟩ =>
    if space.qualifier = "" then none else some (space.qualifier, name.name)
  | _ => none

def enter : Registration → Attempt Unit
  | type blueprint => Attempt.enterType blueprint
  | schema blueprint => Attempt.enterSchema blueprint
  | facet name schemas => do
    let _ ← Action.registerFacet name schemas

/-- Types and schemas refer to what is admitted, and schemas are complex. -/
def Sound (admitted : TypeRef → Prop) : Registration → Prop
  | type blueprint => blueprint.Refers admitted
  | schema blueprint => blueprint.Refers admitted ∧
    ∃ space fields, blueprint.body = .complex space none fields
  | facet .. => True

def IsPlain (registration : Registration) : Prop :=
  ∀ registryId id, ((registration.blueprint registryId).builtAs id).composite? = none

theorem Refers.isPlain {admitted : TypeRef → Prop} {blueprint : Blueprint}
    (refers : blueprint.Refers admitted) (id : TypeId) :
    (blueprint.builtAs id).composite? = none := by
  rcases blueprint with ⟨name, base, flags, body⟩
  cases body with
  | composite => cases refers
  | primitive | simple | complex | list => rfl

theorem IsPlain.facetName? {registration : Registration} (plain : registration.IsPlain) :
    registration.facetName? = none := by
  rcases registration with _ | _ | ⟨name, schemas⟩
  · rfl
  · rfl
  · cases plain ⟨0⟩ ⟨0⟩

/-! ## Lists of registrations -/

def schemaNames (registrations : List Registration) : List String :=
  registrations.filterMap schemaName?

def claims (registrations : List Registration) : List (String × String) :=
  registrations.filterMap claim?

theorem keyed_facetName?_of_plain {start : Nat} {registrations : List Registration}
    (plain : ∀ registration ∈ registrations, registration.IsPlain) :
    Entries.keyed facetName? (TypeId.number start registrations) = [] := by
  refine List.filterMap_eq_nil_iff.mpr fun entry member => ?_
  have present : entry.1 ∈ registrations := by
    rw [← TypeId.map_fst_number start registrations]
    exact List.mem_map_of_mem member
  rw [(plain entry.1 present).facetName?]
  rfl

variable (first second : List Registration)

@[simp] theorem schemaNames_append :
    schemaNames (first ++ second) = schemaNames first ++ schemaNames second :=
  List.filterMap_append

@[simp] theorem claims_append : claims (first ++ second) = claims first ++ claims second :=
  List.filterMap_append

theorem mem_schemaNames_of_claim {registrations : List Registration} {qualifier name : String}
    (claimed : (qualifier, name) ∈ claims registrations) : name ∈ schemaNames registrations := by
  rcases List.mem_filterMap.mp claimed with ⟨registration, member, claim⟩
  refine List.mem_filterMap.mpr ⟨registration, member, ?_⟩
  rcases registration with _ | ⟨schemaName, _, _, body⟩ | _
  · cases claim
  · cases body <;> simp only [claim?] at claim
    case complex space _ _ =>
      split at claim
      · cases claim
      · cases claim
        rfl
    all_goals cases claim
  · cases claim

end Registration

open Registration

namespace Store

/-- A store in which a list of types, schemas and facets has been built and registered. -/
structure Entered (registrations : List Registration) (before after : Store) : Prop where
  registryId_eq : after.registryId = before.registryId
  holdings_eq : after.holdings = before.holdings
  size_eq : after.types.size = before.types.size + registrations.length
  /-- Types from before are as they were; facets have been asked to merge again. -/
  old : ∀ id, id.position < before.types.size → after.type? id =
    (before.type? id).map (DocumentType.askedAll (schemaNames registrations)
      (before.registry.facets.values.count id))
  new : ∀ entry ∈ TypeId.number before.types.size registrations, after.type? entry.2 =
    some ((entry.1.blueprint before.registryId).builtAs entry.2)
  types_eq : after.registry.types = before.registry.types.putAll
    (Entries.keyed typeName? (TypeId.number before.types.size registrations))
  schemas_eq : after.registry.schemas = before.registry.schemas.putAll
    (Entries.keyed schemaName? (TypeId.number before.types.size registrations))
  facets_eq : after.registry.facets = before.registry.facets.putAll
    (Entries.keyed facetName? (TypeId.number before.types.size registrations))
  fieldLookups_eq : after.registry.fieldLookups =
    if schemaNames registrations = [] then before.registry.fieldLookups else .empty
  qualifiers : (schemaNames registrations).Nodup → ∃ declared : String → Option String,
    (before.SchemasExist → ∀ name ∈ schemaNames registrations,
      declared name = before.declaredQualifier? name) ∧
    ∀ qualifier, after.registry.qualifiers.get? qualifier =
      (Entries.last? (claims registrations) qualifier).or
        ((before.registry.qualifiers.get? qualifier).filter
          (keepsQualifier (schemaNames registrations) declared qualifier))

namespace Entered

variable {first second : List Registration} {before middle after store : Store}

theorem refl (store : Store) : Entered [] store store where
  registryId_eq := rfl
  holdings_eq := rfl
  size_eq := rfl
  old id _ := by
    cases store.type? id with
    | none => rfl
    | some type => rfl
  new _ member := by cases member
  types_eq := rfl
  schemas_eq := rfl
  facets_eq := rfl
  fieldLookups_eq := rfl
  qualifiers _ := by
    refine ⟨fun _ => none, fun _ _ _ => by contradiction, fun qualifier => ?_⟩
    cases store.registry.qualifiers.get? qualifier with
    | none => rfl
    | some owner => rfl

theorem get?_schemas (entered : Entered first before after) (name : String) :
    after.registry.schemas.get? name =
      (Entries.last? (Entries.keyed schemaName? (TypeId.number before.types.size first)) name).or
        (before.registry.schemas.get? name) := by
  rw [entered.schemas_eq, Table.get?_putAll]

theorem get?_types (entered : Entered first before after) (name : TypeName) :
    after.registry.types.get? name =
      (Entries.last? (Entries.keyed typeName? (TypeId.number before.types.size first)) name).or
        (before.registry.types.get? name) := by
  rw [entered.types_eq, Table.get?_putAll]

theorem contains_types_iff (entered : Entered first before after) {name : TypeName} :
    after.registry.types.contains name = true ↔
      (∃ registration ∈ first, registration.typeName = name) ∨
        before.registry.types.contains name = true := by
  unfold Table.contains
  rw [entered.get?_types, Option.isSome_or, Bool.or_eq_true, Entries.last?_isSome_iff,
    Entries.map_fst_keyed, TypeId.map_fst_number, List.mem_filterMap]
  simp [typeName?]

theorem get?_facets (entered : Entered first before after) (name : String) :
    after.registry.facets.get? name =
      (Entries.last? (Entries.keyed facetName? (TypeId.number before.types.size first)) name).or
        (before.registry.facets.get? name) := by
  rw [entered.facets_eq, Table.get?_putAll]

theorem schemasExist (entered : Entered first before after) (exist : before.SchemasExist) :
    after.SchemasExist := by
  intro name id found
  rw [entered.get?_schemas, Option.or_eq_some_iff] at found
  rcases found with new | ⟨-, old⟩
  · rcases Entries.mem_keyed (Entries.mem_of_last? new) with ⟨entry, member, -, rfl⟩
    rw [entered.new entry member]
    rfl
  · have present := exist name id old
    rw [entered.old id (type?_isSome_iff.mp present), Option.isSome_map]
    exact present

theorem declaredQualifier?_eq (entered : Entered first before after)
    (exist : before.SchemasExist) {name : String} (other : name ∉ schemaNames first) :
    after.declaredQualifier? name = before.declaredQualifier? name := by
  have unregistered : Entries.last?
      (Entries.keyed schemaName? (TypeId.number before.types.size first)) name = none := by
    rw [Entries.last?_eq_none_iff, Entries.map_fst_keyed, TypeId.map_fst_number]
    exact other
  unfold declaredQualifier?
  rw [entered.get?_schemas, unregistered, Option.none_or]
  cases found : before.registry.schemas.get? name with
  | none => rfl
  | some id =>
      have inside := type?_isSome_iff.mp (exist name id found)
      rw [Option.map_some, Option.map_some, qualifierAt, qualifierAt, complexAt?, complexAt?,
        entered.old id inside]
      cases before.type? id with
      | none => rfl
      | some type => rw [Option.map_some, Option.bind_some, Option.bind_some,
          DocumentType.complex?_askedAll]

theorem last?_of_alone {κ : Type} [DecidableEq κ] (entered : Entered first before after)
    {key? : Registration → Option κ} {key : κ} {registration : Registration}
    (member : registration ∈ first) (keyed : key? registration = some key)
    (alone : ∀ other ∈ first, key? other = some key → other = registration) :
    ∃ id, before.types.size ≤ id.position ∧
      Entries.last? (Entries.keyed key? (TypeId.number before.types.size first)) key = some id ∧
      after.type? id = some ((registration.blueprint before.registryId).builtAs id) := by
  cases found : Entries.last? (Entries.keyed key? (TypeId.number before.types.size first)) key with
  | none =>
      rw [Entries.last?_eq_none_iff, Entries.map_fst_keyed, TypeId.map_fst_number] at found
      exact absurd (List.mem_filterMap.mpr ⟨registration, member, keyed⟩) found
  | some id =>
      rcases Entries.mem_keyed (Entries.mem_of_last? found) with ⟨entry, entryMember, named, rfl⟩
      have registrationMember : entry.1 ∈ first := by
        rw [← TypeId.map_fst_number before.types.size first]
        exact List.mem_map_of_mem entryMember
      have here := entered.new entry entryMember
      rw [alone entry.1 registrationMember named] at here
      exact ⟨entry.2, (TypeId.position_of_mem_number entryMember).1, rfl, here⟩

theorem registered (entered : Entered first before after) {registration : Registration}
    (member : registration ∈ first)
    (alone : ∀ other ∈ first, other.typeName = registration.typeName → other = registration) :
    ∃ id, before.types.size ≤ id.position ∧
      after.registry.types.get? registration.typeName = some id ∧
      after.type? id = some ((registration.blueprint before.registryId).builtAs id) := by
  have keyed : typeName? registration = some registration.typeName := rfl
  rcases entered.last?_of_alone member keyed
    (fun other present same => alone other present (Option.some.inj same)) with
    ⟨id, new, found, built⟩
  exact ⟨id, new, by rw [entered.get?_types, found, Option.some_or], built⟩

theorem registeredSchema (entered : Entered first before after) {registration : Registration}
    {name : String} (member : registration ∈ first) (named : registration.schemaName? = some name)
    (alone : ∀ other ∈ first, other.schemaName? = some name → other = registration) :
    ∃ id, after.registry.schemas.get? name = some id ∧
      after.type? id = some ((registration.blueprint before.registryId).builtAs id) := by
  rcases entered.last?_of_alone member named alone with ⟨id, -, found, built⟩
  exact ⟨id, by rw [entered.get?_schemas, found, Option.some_or], built⟩

theorem qualifiers_append (earlier : Entered first before middle)
    (later : Entered second middle after) (nodup : (schemaNames (first ++ second)).Nodup) :
    ∃ declared : String → Option String,
      (before.SchemasExist → ∀ name ∈ schemaNames (first ++ second),
        declared name = before.declaredQualifier? name) ∧
      ∀ qualifier, after.registry.qualifiers.get? qualifier =
        (Entries.last? (claims (first ++ second)) qualifier).or
          ((before.registry.qualifiers.get? qualifier).filter
            (keepsQualifier (schemaNames (first ++ second)) declared qualifier)) := by
  rw [schemaNames_append] at nodup
  rcases List.nodup_append.mp nodup with ⟨firstNodup, secondNodup, different⟩
  have apart : ∀ name ∈ schemaNames first, name ∉ schemaNames second :=
    fun name early late => different name early name late rfl
  rcases earlier.qualifiers firstNodup with ⟨firstDeclared, firstAgrees, firstOwners⟩
  rcases later.qualifiers secondNodup with ⟨secondDeclared, secondAgrees, secondOwners⟩
  refine ⟨fun name => if name ∈ schemaNames first then firstDeclared name
    else secondDeclared name, fun exist name member => ?_, fun qualifier => ?_⟩
  · by_cases early : name ∈ schemaNames first
    · exact (if_pos early).trans (firstAgrees exist name early)
    · have late : name ∈ schemaNames second := by
        rw [schemaNames_append] at member
        exact (List.mem_append.mp member).resolve_left early
      refine (if_neg early).trans ?_
      rw [secondAgrees (earlier.schemasExist exist) name late]
      exact earlier.declaredQualifier?_eq exist early
  · rw [secondOwners, firstOwners, claims_append, Entries.last?_append, schemaNames_append,
      Option.or_assoc, keepsQualifier_append apart]
    congr 1
    cases claimed : Entries.last? (claims first) qualifier with
    | some owner =>
        -- A schema that has just claimed a qualifier is not entered once more.
        have absent := apart owner (mem_schemaNames_of_claim (Entries.mem_of_last? claimed))
        rw [Option.some_or, Option.some_or, Option.filter_some, if_pos]
        simp [keepsQualifier, absent]
    | none =>
        rw [Option.none_or, Option.none_or, Option.filter_filter]

theorem trans (earlier : Entered first before middle) (later : Entered second middle after)
    (ordered : (∀ registration ∈ first, registration.IsPlain) ∨ schemaNames second = []) :
    Entered (first ++ second) before after := by
  have numbered : TypeId.number before.types.size (first ++ second) =
      TypeId.number before.types.size first ++ TypeId.number middle.types.size second := by
    rw [TypeId.number_append, earlier.size_eq]
  refine {
    registryId_eq := later.registryId_eq.trans earlier.registryId_eq
    holdings_eq := later.holdings_eq.trans earlier.holdings_eq
    size_eq := by
      rw [later.size_eq, earlier.size_eq, List.length_append]
      omega
    old := fun id inside => ?_
    new := fun entry member => ?_
    types_eq := by
      rw [later.types_eq, earlier.types_eq, numbered, Entries.keyed_append,
        Table.putAll_append]
    schemas_eq := by
      rw [later.schemas_eq, earlier.schemas_eq, numbered, Entries.keyed_append,
        Table.putAll_append]
    facets_eq := by
      rw [later.facets_eq, earlier.facets_eq, numbered, Entries.keyed_append,
        Table.putAll_append]
    fieldLookups_eq := ?_
    qualifiers := fun nodup => ?_ }
  · have insideLater : id.position < middle.types.size := by
      have size := earlier.size_eq
      omega
    rw [later.old id insideLater, earlier.old id inside, Option.map_map, schemaNames_append]
    rcases ordered with plain | silent
    · have facets : middle.registry.facets = before.registry.facets := by
        rw [earlier.facets_eq, keyed_facetName?_of_plain plain]
        rfl
      rw [facets]
      congr 1
      funext type
      exact (DocumentType.askedAll_append _ _ _ type).symm
    · rw [silent, List.append_nil]
      rfl
  · rw [numbered] at member
    rcases List.mem_append.mp member with early | late
    · have inside : entry.2.position < middle.types.size := by
        have bounds := TypeId.position_of_mem_number early
        have size := earlier.size_eq
        omega
      rw [later.old entry.2 inside, earlier.new entry early, Option.map_some]
      rcases ordered with plain | silent
      · have present : entry.1 ∈ first := by
          rw [← TypeId.map_fst_number before.types.size first]
          exact List.mem_map_of_mem early
        rw [DocumentType.askedAll_of_composite?_eq_none (plain entry.1 present _ _)]
      · rw [silent]
        rfl
    · rw [later.new entry late, earlier.registryId_eq]
  · rw [later.fieldLookups_eq, earlier.fieldLookups_eq, schemaNames_append]
    by_cases none : schemaNames second = []
    · simp [none]
    · simp [none]
  · exact earlier.qualifiers_append later nodup

theorem of_notices {notices : List Notice}
    (entered : Entered first { before with notices } after) : Entered first before after :=
  ⟨entered.registryId_eq, entered.holdings_eq, entered.size_eq, entered.old, entered.new,
    entered.types_eq, entered.schemas_eq, entered.facets_eq, entered.fieldLookups_eq,
    entered.qualifiers⟩

theorem pushed (registration : Registration) (store : Store) (registry : Registry)
    (silent : registration.schemaName? = none) (unclaimed : registration.claim? = none)
    (types : registry.types = store.registry.types.put registration.typeName store.nextId)
    (schemas : registry.schemas = store.registry.schemas)
    (facets : registry.facets =
      store.registry.facets.putAll (Entries.keyed facetName? [(registration, store.nextId)]))
    (qualifiers : registry.qualifiers = store.registry.qualifiers)
    (fieldLookups : registry.fieldLookups = store.registry.fieldLookups)
    (notices : List Notice) :
    Entered [registration] store { store.push
      ((registration.blueprint store.registryId).builtAs store.nextId) with
        registry, notices } := by
  have noSchemas : schemaNames [registration] = [] := by simp [schemaNames, silent]
  have noClaims : claims [registration] = [] := by simp [claims, unclaimed]
  refine {
    registryId_eq := rfl
    holdings_eq := rfl
    size_eq := by simp [push]
    old := fun id inside => ?_
    new := fun entry member => ?_
    types_eq := types
    schemas_eq := by
      rw [schemas]
      simp [TypeId.number, Entries.keyed, silent, Table.putAll]
    facets_eq := facets
    fieldLookups_eq := by rw [fieldLookups, noSchemas, if_pos rfl]
    qualifiers := fun _ => ⟨fun _ => none, ?_, fun qualifier => ?_⟩ }
  · have different : id ≠ store.nextId := by
      rintro rfl
      exact Nat.lt_irrefl _ inside
    refine (type?_push store _ id).trans ?_
    rw [if_neg different, noSchemas]
    cases store.type? id with
    | none => rfl
    | some type => rfl
  · rw [List.mem_singleton.mp member]
    exact (type?_push store _ store.nextId).trans (if_pos rfl)
  · rw [noSchemas]
    exact fun _ _ member => by cases member
  · rw [qualifiers, noClaims, noSchemas]
    cases store.registry.qualifiers.get? qualifier with
    | none => rfl
    | some owner => rfl

end Entered
end Store

/-! ## One registration -/

namespace Registration

variable {admitted : TypeRef → Prop}

theorem enter_type {blueprint : Blueprint} (refers : blueprint.Refers admitted) (store : Store) :
    ∃ after, (type blueprint).enter.run.run store = (.ok (), after) ∧
      store.Entered [type blueprint] after := by
  rcases Attempt.run_build_ok refers.isComplete store with ⟨built, buildRun⟩
  let middle : Store := { store.push (blueprint.built store) with notices := built }
  have found : middle.type? store.nextId = some (blueprint.built store) :=
    (store.type?_push _ _).trans (if_pos rfl)
  rcases Action.run_registerType found with ⟨notices, run⟩
  refine ⟨((Action.registerType store.nextId).run middle).2, ?_, ?_⟩
  · unfold enter Attempt.enterType
    rw [Attempt.run_bind_ok buildRun, Attempt.run_lift]
  · let registry : Registry := { store.registry with
      types := store.registry.types.put blueprint.name store.nextId }
    have pushed := Store.Entered.pushed (type blueprint) store registry rfl rfl rfl rfl rfl rfl
      rfl notices
    rw [show (type blueprint).blueprint store.registryId = blueprint from rfl,
      ← refers.built_eq store] at pushed
    rw [run]
    exact pushed

theorem enter_facet (name : String) (schemas : List String) (store : Store) :
    ∃ after, (facet name schemas).enter.run.run store = (.ok (), after) ∧
      store.Entered [facet name schemas] after := by
  rcases Action.run_registerFacet name schemas store with ⟨notices, run⟩
  refine ⟨((Action.registerFacet name schemas).run store).2, rfl, ?_⟩
  let registry : Registry := { store.registry with
    facets := store.registry.facets.put name store.nextId
    types := store.registry.types.put ⟨facetSchema, name⟩ store.nextId }
  rw [run]
  exact .pushed (facet name schemas) store registry rfl rfl rfl rfl rfl rfl rfl notices

theorem last?_claims_schema {blueprint : Blueprint} {space : Namespace}
    {fields : List FieldDeclaration} (body : blueprint.body = .complex space none fields)
    (qualifier : String) : Entries.last? (claims [schema blueprint]) qualifier =
      if space.qualifier ≠ "" ∧ space.qualifier = qualifier then some blueprint.name.name
      else none := by
  rcases blueprint with ⟨name, base, flags, _⟩
  cases body
  by_cases empty : space.qualifier = ""
  · simp [claims, claim?, empty, Entries.last?]
  · simp [claims, claim?, empty, Entries.last?]

theorem enter_schema {blueprint : Blueprint} {space : Namespace}
    {fields : List FieldDeclaration} (body : blueprint.body = .complex space none fields)
    (refers : blueprint.Refers admitted) (store : Store) :
    ∃ after, (schema blueprint).enter.run.run store = (.ok (), after) ∧
      store.Entered [schema blueprint] after := by
  rcases Attempt.run_build_ok refers.isComplete store with ⟨built, buildRun⟩
  let middle : Store := { store.push (blueprint.built store) with notices := built }
  have found : middle.type? store.nextId = some (blueprint.built store) :=
    (store.type?_push _ _).trans (if_pos rfl)
  rcases Action.run_registerComplex store.nextId blueprint.name space middle with
    ⟨types, notices, qualifiers, run, size, asked, owners⟩
  refine ⟨((Action.registerComplex store.nextId blueprint.name space).run middle).2, ?_, ?_⟩
  · rcases blueprint with ⟨name, base, flags, _⟩
    cases body
    unfold enter Attempt.enterSchema
    rw [Attempt.run_bind_ok buildRun, Attempt.run_registerSchema found rfl,
      ComplexType.space_declareAll]
    rfl
  · rw [run]
    refine {
      registryId_eq := rfl
      holdings_eq := rfl
      size_eq := size.trans (by simp [middle, Store.push])
      old := fun id inside => ?_
      new := fun entry member => ?_
      types_eq := rfl
      schemas_eq := rfl
      facets_eq := rfl
      fieldLookups_eq := rfl
      qualifiers := fun _ => ?_ }
    · have different : id ≠ store.nextId := by
        rintro rfl
        exact Nat.lt_irrefl _ inside
      refine (asked id).trans ?_
      rw [show middle.type? id = store.type? id from
        (store.type?_push _ id).trans (if_neg different)]
      rfl
    · rw [List.mem_singleton.mp member]
      refine (asked store.nextId).trans ?_
      rw [found, refers.built_eq store, Option.map_some,
        DocumentType.asked_of_composite?_eq_none (Refers.isPlain refers _)]
      rfl
    · refine ⟨middle.declaredQualifier?, fun exist name _ => ?_, fun qualifier => ?_⟩
      · exact exist.declaredQualifier?_push (blueprint.built store) name
      · refine (owners qualifier).trans ?_
        have named : schemaNames [schema blueprint] = [blueprint.name.name] := rfl
        rw [last?_claims_schema body, named]
        split <;> rfl

theorem Sound.enter {registration : Registration} (sound : registration.Sound admitted)
    (store : Store) : ∃ after, registration.enter.run.run store = (.ok (), after) ∧
      store.Entered [registration] after := by
  cases registration with
  | type blueprint => exact enter_type sound store
  | schema blueprint =>
      rcases sound with ⟨refers, space, fields, body⟩
      exact enter_schema body refers store
  | facet name schemas => exact enter_facet name schemas store

def Ordered (registrations : List Registration) : Prop :=
  registrations.Pairwise fun earlier later => earlier.IsPlain ∨ later.schemaName? = none

theorem Ordered.schemaNames {registration : Registration} {rest : List Registration}
    (ordered : Ordered (registration :: rest)) :
    registration.IsPlain ∨ schemaNames rest = [] := by
  rcases Classical.em registration.IsPlain with plain | composite
  · exact .inl plain
  · refine .inr (List.filterMap_eq_nil_iff.mpr fun other member => ?_)
    exact ((List.pairwise_cons.mp ordered).1 other member).resolve_left composite

/-- Sound registrations succeed one after the other. The induction peels off the first of
them, so what the others add is told from the store that the first one leaves. -/
theorem forM_enter {registrations : List Registration}
    (sound : ∀ registration ∈ registrations, registration.Sound admitted)
    (ordered : Ordered registrations) (store : Store) :
    ∃ after, (forM registrations enter).run.run store = (.ok (), after) ∧
      store.Entered registrations after := by
  induction registrations generalizing store with
  | nil => exact ⟨store, rfl, .refl store⟩
  | cons registration rest induction =>
      rcases (sound registration List.mem_cons_self).enter store with ⟨middle, first, entered⟩
      have soundRest := fun other member => sound other (List.mem_cons_of_mem _ member)
      rcases induction soundRest (List.pairwise_cons.mp ordered).2 middle with
        ⟨after, later, enteredLater⟩
      refine ⟨after, (Attempt.run_bind_ok first _).trans later, ?_⟩
      have plain : (∀ other ∈ [registration], other.IsPlain) ∨ schemaNames rest = [] := by
        simpa using ordered.schemaNames
      exact entered.trans enteredLater plain

end Registration

/-! ## Plans -/

def Plan.registrations (plan : Plan) : List Registration :=
  (plan.schemas.flatMap SchemaPlan.types).map Registration.type ++
    ((plan.schemas.map SchemaPlan.schema).map Registration.schema ++
      plan.facets.map fun facet => Registration.facet facet.1 facet.2)

namespace Plan.Sound

variable {plan : Plan} {registry : Registry} {registryId : RegistryId}

theorem registrations (sound : plan.Sound registry registryId) :
    ∀ registration ∈ plan.registrations,
      registration.Sound (Drafting.AimsAt registry registryId (builtNames plan.schemas)) := by
  intro registration member
  rcases List.mem_append.mp member with type | other
  · rcases List.mem_map.mp type with ⟨blueprint, planned, rfl⟩
    rcases List.mem_flatMap.mp planned with ⟨entry, present, typeMember⟩
    exact sound.refers entry present blueprint (List.mem_append_left _ typeMember)
  rcases List.mem_append.mp other with schema | facet
  · rcases List.mem_map.mp schema with ⟨blueprint, planned, rfl⟩
    rcases List.mem_map.mp planned with ⟨entry, present, rfl⟩
    exact ⟨sound.refers entry present entry.schema (List.mem_append_right _ List.mem_cons_self),
      sound.schema entry present⟩
  · rcases List.mem_map.mp facet with ⟨entry, -, rfl⟩
    trivial

theorem ordered (sound : plan.Sound registry registryId) : Ordered plan.registrations := by
  have plain : ∀ registration ∈ plan.registrations, registration.facetName? = none →
      registration.IsPlain := by
    intro registration member other
    have soundHere := sound.registrations registration member
    cases registration with
    | type => exact fun _ => Refers.isPlain soundHere
    | schema => exact fun _ => Refers.isPlain soundHere.1
    | facet => cases other
  have last : ∀ earlier ∈ plan.registrations, ∀ later ∈ plan.facets.map fun facet =>
      Registration.facet facet.1 facet.2, earlier.IsPlain ∨ later.schemaName? = none := by
    intro _ _ later member
    rcases List.mem_map.mp member with ⟨facet, -, rfl⟩
    exact .inr rfl
  unfold Plan.registrations at plain last ⊢
  rw [← List.append_assoc] at plain last ⊢
  refine List.pairwise_append.mpr ⟨?_, ?_, fun earlier member =>
    last earlier (List.mem_append_left _ member)⟩
  · refine List.pairwise_iff_forall_sublist.mpr fun {earlier _} pair => .inl ?_
    have member := pair.subset List.mem_cons_self
    refine plain earlier (List.mem_append_left _ member) ?_
    rcases List.mem_append.mp member with type | schema
    · rcases List.mem_map.mp type with ⟨blueprint, -, rfl⟩
      rfl
    · rcases List.mem_map.mp schema with ⟨blueprint, -, rfl⟩
      rfl
  · refine List.pairwise_iff_forall_sublist.mpr fun {earlier later} pair => ?_
    exact last earlier (List.mem_append_right _ (pair.subset List.mem_cons_self)) later
      (pair.subset (List.mem_cons_of_mem _ List.mem_cons_self))

end Plan.Sound

namespace Attempt

theorem carryOut_eq (plan : Plan) : carryOut plan = forM plan.registrations Registration.enter := by
  simp only [carryOut, Plan.registrations, List.forM_eq_forM, List.forM_append, List.forM_map]
  rfl

/-- A sound plan is carried out without failure, and all that it registers is there. -/
theorem carryOut_entered {plan : Plan} {registry : Registry} {registryId : RegistryId}
    (sound : plan.Sound registry registryId) (store : Store) :
    ∃ after, (carryOut plan).run.run store = (.ok (), after) ∧
      store.Entered plan.registrations after := by
  rw [carryOut_eq]
  exact Registration.forM_enter sound.registrations sound.ordered store

end Attempt
end DocumentTypes
